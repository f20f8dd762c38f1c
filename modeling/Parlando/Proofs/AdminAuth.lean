import Parlando.AdminAuth
import Mathlib.Data.List.Basic

namespace Parlando.Admin

open Concurrency

variable {env : AdminEnv} {s t : AdminPlane} {history : List AdminEvent}

def AdminEvent.apply (store : AdminStore) : AdminEvent → AdminStore
  | created credential => { store with credential := some credential }
  | signedIn _ _ _ session => { store with sessions := store.sessions ++ [session] }
  | touched tokenDigest now => store.touchAdminSession tokenDigest now
  | revoked tokenDigest | expired tokenDigest => store.deleteAdminSession tokenDigest
  | cleaned now => store.deleteExpiredAdminSessions (now - adminIdleSeconds) (now - adminAbsoluteSeconds)
  | networks _ => store

def replay (history : List AdminEvent) : AdminStore := history.foldl AdminEvent.apply {}

/-- The networks that the game settings named last. -/
def networksOf (history : List AdminEvent) : List String :=
  history.foldl (fun ranges event => match event with
    | .networks ranges => ranges
    | _ => ranges) []

@[simp] theorem replay_append (history : List AdminEvent) (event : AdminEvent) :
    replay (history ++ [event]) = event.apply (replay history) := List.foldl_concat ..

structure Verifies (env : AdminEnv) (stored : StoredAdminCredential) (process : Nat)
    (username password : String) : Prop where
  username : env.comparisonDigest process username = env.comparisonDigest process stored.username
  password : env.verifyPassword password stored.passwordHash = true

def AdminEvent.Justified (env : AdminEnv) (store : AdminStore) : AdminEvent → Prop
  | created _ => store.credential = none
  | signedIn username password process session => session.lastSeenAt = session.createdAt ∧
    ∃ stored, store.credential = some stored ∧ session.role = stored.role ∧
      Verifies env stored process username password
  | _ => True

inductive Genuine (env : AdminEnv) : List AdminEvent → Prop where
  | nil : Genuine env []
  | concat {history : List AdminEvent} {event : AdminEvent} (genuine : Genuine env history)
      (justified : event.Justified env (replay history)) : Genuine env (history ++ [event])

/-- Every cleanup found the session young enough, and used not too long ago. -/
def Spared (session : StoredAdminSession) (since : List AdminEvent) : Prop :=
  ∀ earlier now later, since = earlier ++ .cleaned now :: later →
    now < session.createdAt + adminAbsoluteSeconds ∧
    ∃ seen, now < seen + adminIdleSeconds ∧
      (seen = session.createdAt ∨ .touched session.tokenDigest seen ∈ earlier)

theorem Spared.concat {session : StoredAdminSession} {since : List AdminEvent} {event : AdminEvent}
    (spared : Spared session since) (last : ∀ now, event = .cleaned now →
      now < session.createdAt + adminAbsoluteSeconds ∧
      ∃ seen, now < seen + adminIdleSeconds ∧
        (seen = session.createdAt ∨ .touched session.tokenDigest seen ∈ since)) :
    Spared session (since ++ [event]) := by
  intro earlier now later split
  obtain rfl | ⟨rest, final, rfl⟩ := later.eq_nil_or_concat'
  · obtain ⟨rfl, same⟩ := List.append_inj' split rfl
    cases same
    exact last now rfl
  · rw [← List.cons_append, ← List.append_assoc] at split
    exact spared earlier now rest (List.append_inj' split rfl).1

structure Origin (history : List AdminEvent) (row session : StoredAdminSession)
    (before since : List AdminEvent) (username password : String) (process : Nat) : Prop where
  split : history = before ++ .signedIn username password process session :: since
  same : row.tokenDigest = session.tokenDigest ∧ row.role = session.role ∧
    row.csrfToken = session.csrfToken ∧ row.createdAt = session.createdAt
  /-- The row was last touched then. -/
  seen : row.lastSeenAt = session.createdAt ∨ .touched session.tokenDigest row.lastSeenAt ∈ since
  kept : .revoked session.tokenDigest ∉ since ∧ .expired session.tokenDigest ∉ since
  spared : Spared session since

theorem Origin.concat {row session : StoredAdminSession} {before since : List AdminEvent}
    {username password : String} {process : Nat}
    (origin : Origin history row session before since username password process) {event : AdminEvent}
    (revoked : event ≠ .revoked session.tokenDigest) (expired : event ≠ .expired session.tokenDigest)
    (spares : ∀ now, event = .cleaned now →
      now < row.createdAt + adminAbsoluteSeconds ∧ now < row.lastSeenAt + adminIdleSeconds) :
    Origin (history ++ [event]) row session before (since ++ [event]) username password process where
  split := by rw [origin.split, List.append_assoc, List.cons_append]
  same := origin.same
  seen := origin.seen.imp_right (List.mem_append_left _)
  kept := by
    simp only [List.mem_append, List.mem_singleton, not_or]
    exact ⟨⟨origin.kept.1, revoked.symm⟩, origin.kept.2, expired.symm⟩
  spared := origin.spared.concat fun now cleaned =>
    ⟨origin.same.2.2.2 ▸ (spares now cleaned).1, row.lastSeenAt, (spares now cleaned).2, origin.seen⟩

/-- Every stored session is one that a verified name and password signed in, and that nothing has
revoked since. -/
theorem Genuine.origin (genuine : Genuine env history) {row : StoredAdminSession}
    (stored : row ∈ (replay history).sessions) : ∃ session before since username password process,
      Origin history row session before since username password process := by
  induction genuine generalizing row with
  | nil => cases stored
  | @concat history event genuine justified ih =>
    rw [replay_append] at stored
    cases event with
    | created _ | networks _ =>
      obtain ⟨session, before, since, username, password, process, origin⟩ := ih stored
      exact ⟨session, before, _, username, password, process,
        origin.concat (by simp) (by simp) (by simp)⟩
    | cleaned now =>
      obtain ⟨stored, spared⟩ := List.mem_filter.mp stored
      simp only [Bool.not_eq_true', Bool.or_eq_false_iff, decide_eq_false_iff_not] at spared
      obtain ⟨session, before, since, username, password, process, origin⟩ := ih stored
      refine ⟨session, before, _, username, password, process,
        origin.concat (by simp) (by simp) fun now same => ?_⟩
      cases same
      omega
    | signedIn username password process session =>
      obtain old | new := List.mem_append.mp stored
      · obtain ⟨session, before, since, username, password, process, origin⟩ := ih old
        exact ⟨session, before, _, username, password, process,
          origin.concat (by simp) (by simp) (by simp)⟩
      · rw [List.mem_singleton] at new
        subst new
        exact ⟨row, history, [], username, password, process, rfl, ⟨rfl, rfl, rfl, rfl⟩,
          .inl justified.1, ⟨by simp, by simp⟩, by simp [Spared]⟩
    | revoked tokenDigest =>
      obtain ⟨old, apart⟩ := List.mem_filter.mp stored
      rw [bne_iff_ne] at apart
      obtain ⟨session, before, since, username, password, process, origin⟩ := ih old
      refine ⟨session, before, _, username, password, process, origin.concat ?_ (by simp) (by simp)⟩
      rw [ne_eq, AdminEvent.revoked.injEq, ← origin.same.1]
      exact fun same => apart same.symm
    | expired tokenDigest =>
      obtain ⟨old, apart⟩ := List.mem_filter.mp stored
      rw [bne_iff_ne] at apart
      obtain ⟨session, before, since, username, password, process, origin⟩ := ih old
      refine ⟨session, before, _, username, password, process, origin.concat (by simp) ?_ (by simp)⟩
      rw [ne_eq, AdminEvent.expired.injEq, ← origin.same.1]
      exact fun same => apart same.symm
    | touched tokenDigest now =>
      obtain ⟨old, member, rfl⟩ := List.mem_map.mp stored
      obtain ⟨session, before, since, username, password, process, origin⟩ := ih member
      have later : Origin (history ++ [.touched tokenDigest now]) _ session before
          (since ++ [.touched tokenDigest now]) username password process :=
        origin.concat (by simp) (by simp) (by simp)
      refine ⟨session, before, since ++ [.touched tokenDigest now], username, password, process, ?_⟩
      split
      · rename_i same
        refine ⟨later.split, origin.same, .inr ?_, later.kept, later.spared⟩
        rw [← origin.same.1, beq_iff_eq.mp same]
        exact List.mem_append_right _ (List.mem_singleton.mpr rfl)
      · exact later

/-- No more than one credential is ever created, and it stays. -/
theorem Genuine.credential (genuine : Genuine env history) {stored : StoredAdminCredential} :
    (replay history).credential = some stored ↔ .created stored ∈ history := by
  induction genuine with
  | nil => simp [replay]
  | @concat history event genuine justified ih =>
    rw [replay_append, List.mem_append, List.mem_singleton, ← ih]
    cases event with
    | created credential =>
      have empty : (replay history).credential = none := justified
      simp [AdminEvent.apply, empty, eq_comm]
    | _ => simp [AdminEvent.apply, AdminStore.touchAdminSession, AdminStore.deleteAdminSession,
        AdminStore.deleteExpiredAdminSessions]

def AdminEvent.isCreation : AdminEvent → Bool
  | created _ => true
  | _ => false

theorem Genuine.creations (genuine : Genuine env history) :
    (history.filter AdminEvent.isCreation).length ≤ 1 := by
  induction genuine with
  | nil => exact Nat.zero_le _
  | @concat history event genuine justified ih =>
    rw [List.filter_append, List.length_append]
    cases event with
    | created credential =>
      have empty : (replay history).credential = none := justified
      have first : history.filter AdminEvent.isCreation = [] := by
        refine List.filter_eq_nil_iff.mpr fun event member creation => ?_
        cases event with
        | created earlier =>
          rw [genuine.credential.mpr member] at empty
          cases empty
        | _ => cases creation
      rw [first]
      exact le_rfl
    | _ => simpa [AdminEvent.isCreation] using ih

/-- What was justified when it happened, in terms of what had happened before. -/
theorem Genuine.justified (genuine : Genuine env history) {before after : List AdminEvent}
    {event : AdminEvent} (split : history = before ++ event :: after) :
    Genuine env before ∧ event.Justified env (replay before) := by
  induction genuine generalizing after with
  | nil => simp at split
  | @concat history last genuine justified ih =>
    obtain rfl | ⟨rest, final, rfl⟩ := after.eq_nil_or_concat'
    · obtain ⟨rfl, same⟩ := List.append_inj' split rfl
      cases same
      exact ⟨genuine, justified⟩
    · rw [← List.cons_append, ← List.append_assoc] at split
      exact ih (List.append_inj' split rfl).1

def Active (env : AdminEnv) (store : AdminStore) (credential : AdminCredential) : Prop :=
  ∃ stored, store.credential = some stored ∧ credentialFromStored env stored = .ok credential

structure AdminPlane.Sound (env : AdminEnv) (s : AdminPlane) : Prop where
  store : s.store = replay s.history
  genuine : Genuine env s.history
  active : ∀ credential ∈ s.credential, Active env s.store credential
  networks : s.adminAllowedIpRanges = networksOf s.history

structure Later (s t : AdminPlane) : Prop where
  history : s.history <+: t.history
  credential : ∀ stored, s.store.credential = some stored → t.store.credential = some stored

theorem Later.of_same (store : t.store = s.store) (history : t.history = s.history) : Later s t :=
  ⟨history ▸ List.prefix_rfl, fun _ => by rw [store]; exact id⟩

theorem Later.refl (s : AdminPlane) : Later s s := .of_same rfl rfl

theorem Active.later {credential : AdminCredential} (active : Active env s.store credential)
    (later : Later s t) : Active env t.store credential := by
  obtain ⟨stored, holds, parsed⟩ := active
  exact ⟨stored, later.credential stored holds, parsed⟩

theorem credentialFromStored_ok {stored : StoredAdminCredential} {credential : AdminCredential}
    (parsed : credentialFromStored env stored = .ok credential) :
    credential.username = stored.username ∧ credential.passwordHash = stored.passwordHash ∧
      credential.role.asStr = stored.role := by
  unfold credentialFromStored at parsed
  cases role : AdminRole.parse stored.role with
  | error error =>
    rw [role] at parsed
    cases parsed
  | ok parsedRole =>
    rw [role] at parsed
    change validatedCredential env stored.username stored.passwordHash parsedRole = _ at parsed
    have same : parsedRole.asStr = stored.role := by
      unfold AdminRole.parse at role
      split at role
      · rename_i text
        cases role
        exact text.symm
      · rename_i text
        cases role
        exact text.symm
      · cases role
    unfold validatedCredential at parsed
    split at parsed
    · cases parsed
    · split at parsed
      · cases parsed
      · cases parsed
        exact ⟨rfl, rfl, same⟩

theorem AdminEvent.keeps {store : AdminStore} {event : AdminEvent}
    (justified : event.Justified env store) {stored : StoredAdminCredential}
    (holds : store.credential = some stored) : (event.apply store).credential = some stored := by
  cases event with
  | created credential =>
    have empty : store.credential = none := justified
    rw [empty] at holds
    cases holds
  | _ => exact holds

theorem later_record (event : AdminEvent) (justified : event.Justified env s.store) :
    Later s (s.record (event.apply s.store) event) where
  history := List.prefix_append ..
  credential _ holds := event.keeps justified holds

def AdminEvent.isNetworks : AdminEvent → Bool
  | networks _ => true
  | _ => false

theorem networksOf_append {event : AdminEvent} (other : event.isNetworks = false) :
    networksOf (history ++ [event]) = networksOf history := by
  rw [networksOf, List.foldl_concat]
  cases event with
  | networks ranges => cases other
  | _ => rfl

theorem AdminPlane.Sound.record (sound : s.Sound env) (event : AdminEvent)
    (justified : event.Justified env s.store) (other : event.isNetworks = false) :
    (s.record (event.apply s.store) event).Sound env ∧
      Later s (s.record (event.apply s.store) event) := by
  have later := later_record event justified
  refine ⟨⟨?_, sound.genuine.concat (sound.store ▸ justified), ?_, ?_⟩, later⟩
  · change event.apply s.store = replay (s.history ++ [event])
    rw [replay_append, sound.store]
  · exact fun credential holds => (sound.active credential holds).later later
  · change s.adminAllowedIpRanges = networksOf (s.history ++ [event])
    rw [networksOf_append other]
    exact sound.networks

/-- Slots, and the credential in memory, are nothing of the store's. -/
theorem AdminPlane.Sound.memory (sound : s.Sound env) {credential : Option AdminCredential}
    {process loginSlots : Nat} (active : ∀ c ∈ credential, Active env s.store c) :
    ({ s with credential, process, loginSlots } : AdminPlane).Sound env :=
  ⟨sound.store, sound.genuine, active, sound.networks⟩

/-- What holds of a login where it stands. -/
def LoginPc.Sound (env : AdminEnv) (call : LoginCall) (process : Nat) (s : AdminPlane) :
    LoginPc → Prop
  | publish stored => s.store.credential = some stored
  | verifying credential _ => Active env s.store credential
  | saving credential _ => Active env s.store credential ∧
    LoginPc.valid env call process credential = true
  | _ => True

theorem LoginPc.Sound.later {call : LoginCall} {process : Nat} {pc : LoginPc}
    (holds : pc.Sound env call process s) (later : Later s t) : pc.Sound env call process t := by
  cases pc with
  | publish stored => exact later.credential stored holds
  | verifying credential now => exact Active.later holds later
  | saving credential now => exact ⟨holds.1.later later, holds.2⟩
  | _ => trivial

/-- A name and password that a login has verified are those of the stored credential. -/
theorem justified_signedIn {call : LoginCall} {process : Nat} {credential : AdminCredential}
    (active : Active env s.store credential)
    (valid : LoginPc.valid env call process credential = true) (now : Int) (input : AdminInput) :
    AdminEvent.Justified env s.store (.signedIn call.username call.password process
      (LoginPc.session env credential now input)) := by
  obtain ⟨stored, holds, parsed⟩ := active
  obtain ⟨username, passwordHash, role⟩ := credentialFromStored_ok parsed
  rw [LoginPc.valid, Bool.and_eq_true, beq_iff_eq, username, passwordHash] at valid
  exact ⟨rfl, stored, holds, role, valid.1, valid.2⟩

theorem LoginPc.step_sound {call : LoginCall} {pc pc' : LoginPc} {input : AdminInput}
    (sound : s.Sound env) (holds : pc.Sound env call s.process s)
    (done : pc.step env call s input = some (t, pc')) :
    t.Sound env ∧ Later s t ∧ t.process = s.process ∧ pc'.Sound env call s.process t := by
  have released : s.release.Sound env := sound.memory sound.active
  have same : Later s s.release := .of_same rfl rfl
  cases pc with
  | network isSetup =>
    simp only [LoginPc.step] at done
    split at done
    · cases done
      exact ⟨sound, .refl s, rfl, by split <;> trivial⟩
    · cases done
      exact ⟨sound, .refl s, rfl, trivial⟩
  | setup =>
    simp only [LoginPc.step] at done
    split at done <;> cases done <;> exact ⟨sound, .refl s, rfl, trivial⟩
  | create stored =>
    simp only [LoginPc.step] at done
    split at done
    · cases done
      exact ⟨sound, .refl s, rfl, trivial⟩
    cases empty : s.store.credential with
    | some other =>
      simp only [AdminStore.createAdminCredential, empty] at done
      cases done
      exact ⟨sound, .refl s, rfl, trivial⟩
    | none =>
      simp only [AdminStore.createAdminCredential, empty] at done
      cases done
      obtain ⟨sound, later⟩ := sound.record (.created stored) empty rfl
      exact ⟨sound, later, rfl, rfl⟩
  | publish stored =>
    simp only [LoginPc.step] at done
    split at done
    · cases done
      exact ⟨sound, .refl s, rfl, trivial⟩
    · rename_i credential parsed
      cases done
      refine ⟨sound.memory ?_, .of_same rfl rfl, rfl, trivial⟩
      intro other member
      cases member
      exact ⟨stored, holds, parsed⟩
  | origin =>
    simp only [LoginPc.step] at done
    split at done <;> cases done <;> exact ⟨sound, .refl s, rfl, trivial⟩
  | acquire =>
    simp only [LoginPc.step] at done
    split at done
    · cases done
      exact ⟨sound, .refl s, rfl, trivial⟩
    · cases done
      exact ⟨sound.memory sound.active, .of_same rfl rfl, rfl, trivial⟩
  | reading now =>
    simp only [LoginPc.step] at done
    split at done
    · cases done
      exact ⟨released, same, rfl, trivial⟩
    · rename_i credential present
      cases done
      exact ⟨sound, .refl s, rfl, sound.active credential present⟩
  | verifying credential now =>
    simp only [LoginPc.step] at done
    split at done
    · cases done
      exact ⟨released, same, rfl, trivial⟩
    · cases done
      exact ⟨released, same, rfl, trivial⟩
    · split at done
      · rename_i valid
        cases done
        exact ⟨sound, .refl s, rfl, holds, valid⟩
      · cases done
        exact ⟨released, same, rfl, trivial⟩
  | saving credential now =>
    simp only [LoginPc.step] at done
    split at done
    · rename_i store answers saves
      cases done
      obtain ⟨active, valid⟩ := holds
      have stored : store =
          { s.store with sessions := s.store.sessions ++ [session env credential now input] } := by
        unfold AdminStore.saveAdminSession at saves
        split at saves
        · cases saves
        · exact (Option.some.inj saves).symm
      obtain ⟨sound, later⟩ := sound.record _ (justified_signedIn active valid now input) rfl
      rw [stored]
      exact ⟨sound.memory sound.active, ⟨later.history, later.credential⟩, rfl, trivial⟩
    · cases done
      exact ⟨released, same, rfl, trivial⟩
  | done reply => cases done

theorem GatePc.step_sound {request : AdminRequest} {pc pc' : GatePc} {input : AdminInput}
    (sound : s.Sound env) (done : pc.step env request s input = some (t, pc')) :
    t.Sound env ∧ Later s t ∧ t.process = s.process := by
  cases pc with
  | network =>
    simp only [GatePc.step] at done
    split at done
    · cases done
      exact ⟨sound, .refl s, rfl⟩
    · split at done <;> cases done <;> exact ⟨sound, .refl s, rfl⟩
  | configured token =>
    simp only [GatePc.step] at done
    split at done <;> cases done <;> exact ⟨sound, .refl s, rfl⟩
  | lookup token =>
    simp only [GatePc.step] at done
    split at done
    · cases done
      exact ⟨sound, .refl s, rfl⟩
    split at done
    · cases done
      exact ⟨sound, .refl s, rfl⟩
    · split at done
      · cases done
        exact ⟨sound, .refl s, rfl⟩
      · split at done <;> cases done <;> exact ⟨sound, .refl s, rfl⟩
  | removing token =>
    simp only [GatePc.step] at done
    split at done
    · cases done
      exact ⟨sound, .refl s, rfl⟩
    · cases done
      obtain ⟨sound, later⟩ := sound.record (.expired (env.tokenDigest token)) trivial rfl
      exact ⟨sound, later, rfl⟩
  | touching token row now =>
    simp only [GatePc.step] at done
    split at done
    · cases done
      exact ⟨sound, .refl s, rfl⟩
    · cases done
      obtain ⟨sound, later⟩ := sound.record (.touched (env.tokenDigest token) now) trivial rfl
      exact ⟨sound, later, rfl⟩
  | deciding token row now =>
    simp only [GatePc.step] at done
    split at done
    · cases done
      exact ⟨sound, .refl s, rfl⟩
    · cases done
      exact ⟨⟨sound.store, sound.genuine, sound.active, sound.networks⟩, .of_same rfl rfl, rfl⟩
  | logout token =>
    simp only [GatePc.step] at done
    split at done
    · cases done
      exact ⟨sound, .refl s, rfl⟩
    · cases done
      obtain ⟨sound, later⟩ := sound.record (.revoked (env.tokenDigest token)) trivial rfl
      exact ⟨sound, later, rfl⟩
  | done reply => cases done

def AdminTask.Sound (env : AdminEnv) (s : AdminPlane) (task : AdminTask) : Prop :=
  match task.work with
  | .login call pc => pc.Sound env call task.process s
  | _ => True

theorem AdminTask.Sound.later {task : AdminTask} (holds : task.Sound env s) (later : Later s t) :
    task.Sound env t := by
  unfold AdminTask.Sound at holds ⊢
  split
  · rename_i call pc work
    rw [work] at holds
    exact LoginPc.Sound.later holds later
  · trivial

theorem AdminPlane.Sound.restart (sound : s.Sound env) (done : s.restart env = some t) :
    t.Sound env ∧ Later s t := by
  unfold AdminPlane.restart at done
  split at done
  · cases done
    refine ⟨sound.memory ?_, .of_same rfl rfl⟩
    intro other member
    cases member
  · rename_i stored holds
    split at done
    · rename_i credential parsed
      cases done
      refine ⟨sound.memory ?_, .of_same rfl rfl⟩
      intro other member
      cases member
      exact ⟨stored, holds, parsed⟩
    · cases done

/-- The networks that the settings name from now on. -/
theorem AdminPlane.Sound.settings (sound : s.Sound env) (ranges : List String)
    (same : t = { s.record s.store (.networks ranges) with adminAllowedIpRanges := ranges }) :
    t.Sound env ∧ Later s t := by
  subst same
  have later : Later s
      { s.record s.store (.networks ranges) with adminAllowedIpRanges := ranges } :=
    ⟨List.prefix_append .., fun _ => id⟩
  refine ⟨⟨?_, sound.genuine.concat trivial, ?_, ?_⟩, later⟩
  · change s.store = replay (s.history ++ [_])
    rw [replay_append, ← sound.store]
    rfl
  · exact fun credential holds => (sound.active credential holds).later later
  · change ranges = networksOf (s.history ++ [_])
    rw [networksOf, List.foldl_concat]

theorem AdminWork.step_sound {work work' : AdminWork} {process : Nat} {input : AdminInput}
    (sound : s.Sound env) (holds : AdminTask.Sound env s ⟨process, work⟩) (same : process = s.process)
    (done : work.step env s input = some (t, work')) :
    t.Sound env ∧ Later s t ∧ AdminTask.Sound env t ⟨process, work'⟩ := by
  subst same
  cases work with
  | login call pc =>
    simp only [AdminWork.step] at done
    split at done
    · split at done
      · cases done
      · cases done
        split
        · exact ⟨sound.memory sound.active, .of_same rfl rfl, trivial⟩
        · exact ⟨sound, .refl s, trivial⟩
    · obtain ⟨⟨next, pc'⟩, step, same⟩ := Option.map_eq_some_iff.mp done
      cases same
      obtain ⟨sound, later, -, kept⟩ := LoginPc.step_sound sound holds step
      exact ⟨sound, later, kept⟩
  | request request pc =>
    simp only [AdminWork.step] at done
    split at done
    · split at done
      · cases done
      · cases done
        exact ⟨sound, .refl s, trivial⟩
    · obtain ⟨⟨next, pc'⟩, step, same⟩ := Option.map_eq_some_iff.mp done
      cases same
      obtain ⟨sound, later, -⟩ := GatePc.step_sound sound step
      exact ⟨sound, later, trivial⟩
  | cleanup finished =>
    cases finished with
    | true => cases done
    | false =>
      cases done
      split
      · obtain ⟨sound, later⟩ := sound.record (.cleaned input.now) trivial rfl
        exact ⟨sound, later, trivial⟩
      · exact ⟨sound, .refl s, trivial⟩
  | settings ranges finished =>
    cases finished with
    | true => cases done
    | false =>
      cases done
      obtain ⟨sound, later⟩ := sound.settings ranges rfl
      exact ⟨sound, later, trivial⟩
  | restart finished =>
    cases finished with
    | true => cases done
    | false =>
      obtain ⟨next, step, same⟩ := Option.map_eq_some_iff.mp done
      cases same
      obtain ⟨sound, later⟩ := sound.restart step
      exact ⟨sound, later, trivial⟩

theorem adminProgram_step {task task' : AdminTask} {started : List AdminTask} {pid : Nat}
    {input : AdminInput} (sound : s.Sound env) (holds : task.Sound env s)
    (done : (adminProgram env).step s pid task input = some (t, task', started)) :
    t.Sound env ∧ Later s t ∧ task'.Sound env t ∧ started = [] := by
  change (if task.process = s.process then _ else none) = _ at done
  split at done
  · rename_i same
    obtain ⟨⟨next, work⟩, step, kept⟩ := Option.map_eq_some_iff.mp done
    cases kept
    obtain ⟨sound, later, kept⟩ := AdminWork.step_sound sound holds same step
    exact ⟨sound, later, kept, rfl⟩
  · cases done

def adminOutline (env : AdminEnv)
    (guard : Pool AdminPlane AdminTask → Pool.Action AdminTask AdminInput → Prop) :
    Outline (adminProgram env) guard where
  inv := AdminPlane.Sound env
  asn s _ task := task.Sound env s
  entry := by
    intro w task pid inv met entry
    obtain ⟨process, work⟩ := task
    have starts := (Bool.and_eq_true_iff.mp entry).1
    cases work with
    | login call pc =>
      cases pc with
      | network isSetup => trivial
      | _ => cases starts
    | _ => trivial
  step := by
    intro w pid input task s' task' started inv each met at_ step
    obtain ⟨sound, -, kept, none_⟩ := adminProgram_step inv (each pid task at_) step
    exact ⟨sound, kept, by simp [none_]⟩
  interference := by
    intro w pid input task s' task' started q other inv each met at_ step apart there holds
    exact AdminTask.Sound.later holds (adminProgram_step inv (each pid task at_) step).2.1

section Requests

variable {guard : Pool AdminPlane AdminTask → Pool.Action AdminTask AdminInput → Prop}
  {w w' : Pool AdminPlane AdminTask}

/-- The request comes in, with a token and from a network that is allowed at that moment. -/
structure Arrives (env : AdminEnv) (w : Pool AdminPlane AdminTask) (pid : Nat)
    (request : AdminRequest) (token : String) : Prop where
  here : ∃ process, w.tasks[pid]? = some ⟨process, .request request .network⟩
  allowed : adminNetworkAllows env w.shared.adminAllowedIpRanges request.clientIp = true
  token : cookieValue request.headers "parlando_admin" = some token

/-- The request looks the row of its token up, which has not lapsed. -/
structure Finds (env : AdminEnv) (w : Pool AdminPlane AdminTask) (pid : Nat)
    (request : AdminRequest) (token : String) (row : StoredAdminSession) (now : Int) : Prop where
  here : ∃ process, w.tasks[pid]? = some ⟨process, .request request (.lookup token)⟩
  stored : w.shared.store.adminSession (env.tokenDigest token) = some row
  lapsed : GatePc.lapsed row now = false

def Arrived (env : AdminEnv)
    (guard : Pool AdminPlane AdminTask → Pool.Action AdminTask AdminInput → Prop)
    (w : Pool AdminPlane AdminTask) (pid : Nat) (request : AdminRequest) (token : String) : Prop :=
  ∃ arrival, (adminProgram env).machine.Run guard ⟨{}, []⟩ arrival ∧
    Arrives env arrival pid request token ∧ (adminProgram env).machine.Run guard arrival w

def Found (env : AdminEnv)
    (guard : Pool AdminPlane AdminTask → Pool.Action AdminTask AdminInput → Prop)
    (w : Pool AdminPlane AdminTask) (pid : Nat) (request : AdminRequest) (token : String)
    (row : StoredAdminSession) (now : Int) : Prop :=
  ∃ finding, Arrived env guard finding pid request token ∧
    Finds env finding pid request token row now ∧ (adminProgram env).machine.Run guard finding w

def GatePc.Way (env : AdminEnv)
    (guard : Pool AdminPlane AdminTask → Pool.Action AdminTask AdminInput → Prop)
    (w : Pool AdminPlane AdminTask) (pid : Nat) (request : AdminRequest) : GatePc → Prop
  | configured token | lookup token => Arrived env guard w pid request token
  | touching token row now | deciding token row now => Found env guard w pid request token row now
  | _ => True

theorem Arrived.later {pid : Nat} {request : AdminRequest} {token : String}
    (arrived : Arrived env guard w pid request token)
    (later : (adminProgram env).machine.Run guard w w') :
    Arrived env guard w' pid request token := by
  obtain ⟨arrival, reached, arrives, past⟩ := arrived
  exact ⟨arrival, reached, arrives, past.trans later⟩

theorem Found.later {pid : Nat} {request : AdminRequest} {token : String}
    {row : StoredAdminSession} {now : Int} (found : Found env guard w pid request token row now)
    (later : (adminProgram env).machine.Run guard w w') :
    Found env guard w' pid request token row now := by
  obtain ⟨finding, arrived, finds, past⟩ := found
  exact ⟨finding, arrived, finds, past.trans later⟩

theorem GatePc.Way.later {pid : Nat} {request : AdminRequest} {pc : GatePc}
    (way : pc.Way env guard w pid request) (later : (adminProgram env).machine.Run guard w w') :
    pc.Way env guard w' pid request := by
  cases pc with
  | configured token => exact Arrived.later way later
  | lookup token => exact Arrived.later way later
  | touching token row now => exact Found.later way later
  | deciding token row now => exact Found.later way later
  | _ => trivial

theorem GatePc.step_way {pid process : Nat} {request : AdminRequest} {pc pc' : GatePc}
    {input : AdminInput} (reached : (adminProgram env).machine.Run guard ⟨{}, []⟩ w)
    (here : w.tasks[pid]? = some ⟨process, .request request pc⟩)
    (way : pc.Way env guard w pid request) (done : pc.step env request w.shared input = some (t, pc')) :
    pc'.Way env guard w pid request := by
  have refuse (error : AppError) : (GatePc.refuse request error).Way env guard w pid request := trivial
  cases pc with
  | network =>
    simp only [GatePc.step] at done
    split at done
    · cases done
      trivial
    · rename_i allows
      rw [Bool.not_eq_true', Bool.not_eq_false] at allows
      split at done
      · cases done
        exact refuse _
      · rename_i token carries
        cases done
        exact ⟨w, reached, ⟨⟨process, here⟩, allows, carries⟩, .refl⟩
  | configured token =>
    simp only [GatePc.step] at done
    split at done
    · cases done
      exact way
    · cases done
      exact refuse _
  | lookup token =>
    simp only [GatePc.step] at done
    split at done
    · cases done
      trivial
    split at done
    · cases done
      exact refuse _
    · rename_i row stored
      split at done
      · cases done
        trivial
      · rename_i valid
        have found : Found env guard w pid request token row input.now :=
          ⟨w, way, ⟨⟨process, here⟩, stored, Bool.not_eq_true _ ▸ valid⟩, .refl⟩
        split at done <;> cases done <;> exact found
  | removing token | logout token =>
    simp only [GatePc.step] at done
    split at done <;> cases done <;> trivial
  | touching token row now =>
    simp only [GatePc.step] at done
    split at done
    · cases done
      trivial
    · cases done
      exact way
  | deciding token row now =>
    simp only [GatePc.step] at done
    split at done
    · cases done
      trivial
    · cases done
      split <;> trivial
  | done reply => cases done

theorem LoginPc.step_admitted {call : LoginCall} {pc pc' : LoginPc} {input : AdminInput}
    (done : pc.step env call s input = some (t, pc')) : t.admitted = s.admitted := by
  cases pc <;> simp only [LoginPc.step] at done
  all_goals
    repeat' first | split at done | cases done
    all_goals rfl

/-- Only the last check of a request lets it through. -/
theorem GatePc.step_admitted {request : AdminRequest} {pc pc' : GatePc} {input : AdminInput}
    (done : pc.step env request s input = some (t, pc')) : t.admitted = s.admitted ∨
    ∃ token row now, pc = .deciding token row now ∧ GatePc.check env request row = .ok () ∧
      t.admitted = s.admitted ++ [⟨request, token, row, now⟩] := by
  cases pc <;> simp only [GatePc.step] at done
  case deciding token row now =>
    split at done
    · cases done
      exact .inl rfl
    · rename_i checked
      cases done
      exact .inr ⟨token, row, now, rfl, checked, rfl⟩
  all_goals
    repeat' first | split at done | cases done
    all_goals exact .inl rfl

theorem AdminWork.step_admitted {work work' : AdminWork} {input : AdminInput}
    (done : work.step env s input = some (t, work')) : t.admitted = s.admitted ∨
    ∃ request token row now, work = .request request (.deciding token row now) ∧
      GatePc.check env request row = .ok () ∧
      t.admitted = s.admitted ++ [⟨request, token, row, now⟩] := by
  cases work with
  | login call pc =>
    simp only [AdminWork.step] at done
    split at done
    · split at done
      · cases done
      · cases done
        split
        · exact .inl rfl
        · exact .inl rfl
    · obtain ⟨⟨next, pc'⟩, step, same⟩ := Option.map_eq_some_iff.mp done
      cases same
      exact .inl (LoginPc.step_admitted step)
  | request request pc =>
    simp only [AdminWork.step] at done
    split at done
    · split at done
      · cases done
      · cases done
        exact .inl rfl
    · obtain ⟨⟨next, pc'⟩, step, same⟩ := Option.map_eq_some_iff.mp done
      cases same
      obtain kept | ⟨token, row, now, rfl, checked, grown⟩ := GatePc.step_admitted step
      · exact .inl kept
      · exact .inr ⟨request, token, row, now, rfl, checked, grown⟩
  | cleanup finished =>
    cases finished with
    | true => cases done
    | false =>
      cases done
      split
      · exact .inl rfl
      · exact .inl rfl
  | settings ranges finished =>
    cases finished with
    | true => cases done
    | false =>
      cases done
      exact .inl rfl
  | restart finished =>
    cases finished with
    | true => cases done
    | false =>
      obtain ⟨next, step, same⟩ := Option.map_eq_some_iff.mp done
      cases same
      unfold AdminPlane.restart at step
      repeat' first | split at step | cases step
      all_goals exact .inl rfl

/-- A request's task goes on with its own next step, or is given up. -/
theorem AdminWork.step_request {work : AdminWork} {request : AdminRequest} {pc' : GatePc}
    {input : AdminInput} (done : work.step env s input = some (t, .request request pc')) :
    ∃ pc, work = .request request pc ∧
      (pc.step env request s input = some (t, pc') ∨ pc' = .done .dropped) := by
  cases work with
  | request own pc =>
    simp only [AdminWork.step] at done
    split at done
    · split at done
      · cases done
      · cases done
        exact ⟨pc, rfl, .inr rfl⟩
    · obtain ⟨⟨next, after⟩, gate, same⟩ := Option.map_eq_some_iff.mp done
      cases same
      exact ⟨pc, rfl, .inl gate⟩
  | login call pc =>
    simp only [AdminWork.step] at done
    split at done
    · split at done <;> cases done
    · obtain ⟨_, _, same⟩ := Option.map_eq_some_iff.mp done
      cases same
  | cleanup finished | settings _ finished =>
    cases finished <;> cases done
  | restart finished =>
    cases finished with
    | true => cases done
    | false =>
      obtain ⟨_, _, same⟩ := Option.map_eq_some_iff.mp done
      cases same

structure Traced (env : AdminEnv)
    (guard : Pool AdminPlane AdminTask → Pool.Action AdminTask AdminInput → Prop)
    (w : Pool AdminPlane AdminTask) : Prop where
  tasks : w.Each fun pid task => ∀ request pc, task.work = .request request pc →
    pc.Way env guard w pid request
  admitted : ∀ admission ∈ w.shared.admitted, ∃ pid,
    Found env guard w pid admission.request admission.token admission.row admission.now ∧
    GatePc.check env admission.request admission.row = .ok ()

theorem Traced.step {action : Pool.Action AdminTask AdminInput}
    (reached : (adminProgram env).machine.Run guard ⟨{}, []⟩ w) (traced : Traced env guard w)
    (met : guard w action) (done : (adminProgram env).machine.step w action = some w') :
    Traced env guard w' := by
  have later : (adminProgram env).machine.Run guard w w' := Machine.Run.refl.tail met done
  obtain ⟨task, rfl, entry, rfl⟩ | ⟨pid, input, task, t, task', started, rfl, here, steps, rfl⟩ :=
    Program.step_cases done
  · refine ⟨?_, fun admission member => ?_⟩
    · intro pid other there request pc same
      obtain old | rfl := Pool.task_of_append there
      · exact (traced.tasks pid other old request pc same).later later
      · have starts := (Bool.and_eq_true_iff.mp entry).1
        rw [same] at starts
        cases pc with
        | network => trivial
        | _ => cases starts
    · obtain ⟨pid, found, checked⟩ := traced.admitted admission member
      exact ⟨pid, found.later later, checked⟩
  · obtain ⟨process, work⟩ := task
    change (if process = w.shared.process then _ else none) = _ at steps
    split at steps
    rotate_left
    · cases steps
    obtain ⟨⟨next, work'⟩, step, same⟩ := Option.map_eq_some_iff.mp steps
    cases same
    refine ⟨?_, fun admission member => ?_⟩
    · intro q other there request pc is
      obtain ⟨rfl, rfl⟩ | ⟨-, old⟩ | new := Pool.task_after there
      · have is : work' = .request request pc := is
        rw [is] at step
        obtain ⟨before, rfl, gate | rfl⟩ := AdminWork.step_request step
        · have way := traced.tasks q _ here request before rfl
          exact (GatePc.step_way reached here way gate).later later
        · trivial
      · exact (traced.tasks q other old request pc is).later later
      · cases new
    · obtain kept | ⟨request, token, row, now, rfl, checked, grown⟩ := AdminWork.step_admitted step
      · obtain ⟨pid, found, checked⟩ := traced.admitted admission (kept ▸ member)
        exact ⟨pid, found.later later, checked⟩
      · rw [grown] at member
        obtain old | new := List.mem_append.mp member
        · obtain ⟨pid, found, checked⟩ := traced.admitted admission old
          exact ⟨pid, found.later later, checked⟩
        · cases List.mem_singleton.mp new
          exact ⟨pid, Found.later (traced.tasks pid _ here request _ rfl) later, checked⟩

end Requests

/-- Why a session lets an administrator's request through, in terms of what had happened to the
store when the request looked it up. -/
structure Vouched (env : AdminEnv) (history : List AdminEvent) (admission : Admission) : Prop where
  /-- Someone had signed in with the stored credential's own name and password, and what they were
  given then is what the request showed; no logout, expiry or cleanup had ended it since. -/
  signedIn : ∃ before since session stored username password process,
    history = before ++ .signedIn username password process session :: since ∧
    .created stored ∈ before ∧ Verifies env stored process username password ∧
    session.tokenDigest = env.tokenDigest admission.token ∧
    session.csrfToken = admission.row.csrfToken ∧ admission.row.role = stored.role ∧
    .revoked session.tokenDigest ∉ since ∧ .expired session.tokenDigest ∉ since ∧
    Spared session since ∧ admission.now < session.createdAt + adminAbsoluteSeconds ∧
    ∃ seen, admission.now < seen + adminIdleSeconds ∧
      (seen = session.createdAt ∨ .touched session.tokenDigest seen ∈ since)
  /-- What may change something has the session's own token, and the administrator's role. -/
  mutation : admission.request.isGet = false →
    validateAdminRequestOrigin env admission.request.headers = .ok () ∧
    admission.request.headers.csrf = some admission.row.csrfToken ∧
    (admission.request.path = GatePc.logoutPath ∨ admission.row.role = "administrator")

theorem check_ok {request : AdminRequest} {row : StoredAdminSession}
    (checked : GatePc.check env request row = .ok ()) (mutates : request.isGet = false) :
    validateAdminRequestOrigin env request.headers = .ok () ∧
    request.headers.csrf = some row.csrfToken ∧
    (request.path = GatePc.logoutPath ∨ row.role = "administrator") := by
  unfold GatePc.check at checked
  obtain ⟨role, parsed, checked⟩ := Except.of_bind_ok checked
  rw [mutates] at checked
  simp only [Bool.not_false, if_true] at checked
  obtain ⟨_, origin, checked⟩ := Except.of_bind_ok checked
  obtain ⟨csrf, checked⟩ := Except.of_check_ok checked
  rw [ne_eq, not_not] at csrf
  refine ⟨origin, csrf, ?_⟩
  split at checked
  · cases checked
  rename_i allowed
  rw [not_and_or, ne_eq, not_not, Bool.not_eq_true', Bool.not_eq_false] at allowed
  refine allowed.imp_right fun mutator => ?_
  unfold AdminRole.parse at parsed
  split at parsed
  · cases parsed
    cases mutator
  · rename_i text
    exact text
  · cases parsed

theorem Finds.vouched {w : Pool AdminPlane AdminTask} {pid : Nat} {admission : Admission}
    (finds : Finds env w pid admission.request admission.token admission.row admission.now)
    (sound : w.shared.Sound env)
    (checked : GatePc.check env admission.request admission.row = .ok ()) :
    Vouched env w.shared.history admission where
  signedIn := by
    have stored := List.mem_of_find?_eq_some finds.stored
    have found := finds.stored
    unfold AdminStore.adminSession at found
    have digest : admission.row.tokenDigest = env.tokenDigest admission.token := by
      have same := List.find?_some found
      exact beq_iff_eq.mp same
    rw [sound.store] at stored
    obtain ⟨session, before, since, username, password, process, origin⟩ :=
      sound.genuine.origin stored
    obtain ⟨known, -, credential, holds, role, verifies⟩ := sound.genuine.justified origin.split
    obtain ⟨sameDigest, sameRole, sameCsrf, sameCreated⟩ := origin.same
    have lapsed := finds.lapsed
    rw [GatePc.lapsed, Bool.or_eq_false_iff, decide_eq_false_iff_not, decide_eq_false_iff_not]
      at lapsed
    exact ⟨before, since, session, credential, username, password, process, origin.split,
      known.credential.mp holds, verifies, sameDigest.symm.trans digest, sameCsrf.symm,
      sameRole.trans role, origin.kept.1, origin.kept.2, origin.spared, by omega,
      admission.row.lastSeenAt, by omega, origin.seen⟩
  mutation := check_ok checked

theorem sound_start : AdminPlane.Sound env {} where
  store := rfl
  genuine := .nil
  active credential member := by cases member
  networks := rfl

variable {guard : Pool AdminPlane AdminTask → Pool.Action AdminTask AdminInput → Prop}
  {w : Pool AdminPlane AdminTask}

theorem sound_of_run (run : (adminProgram env).machine.Run guard ⟨{}, []⟩ w) :
    w.shared.Sound env := by
  have valid : (adminOutline env guard).Valid w := by
    refine Outline.Valid.run run ⟨sound_start, ?_⟩
    intro pid task at_
    cases at_
  exact valid.inv

theorem traced_of_run (run : (adminProgram env).machine.Run guard ⟨{}, []⟩ w) :
    Traced env guard w := by
  refine run.invariant_of_reached ⟨?_, ?_⟩ fun reached traced met step =>
    traced.step reached met step
  · intro pid task there
    cases there
  · intro admission member
    cases member

/-- Whatever logins, requests, logouts, cleanups and restarts do at the same time, there is one
credential at most, and every request that is let through came from an allowed network and found a
session that a login with the credential vouches for. -/
theorem admin_admissions (run : (adminProgram env).machine.Run guard ⟨{}, []⟩ w) :
    (w.shared.history.filter AdminEvent.isCreation).length ≤ 1 ∧
    w.shared.store = replay w.shared.history ∧
    w.shared.adminAllowedIpRanges = networksOf w.shared.history ∧
    ∀ admission ∈ w.shared.admitted, ∃ pid arrival finding,
      (adminProgram env).machine.Run guard ⟨{}, []⟩ arrival ∧
      Arrives env arrival pid admission.request admission.token ∧
      (adminProgram env).machine.Run guard arrival finding ∧
      Finds env finding pid admission.request admission.token admission.row admission.now ∧
      (adminProgram env).machine.Run guard finding w ∧
      Vouched env finding.shared.history admission := by
  have sound := sound_of_run run
  refine ⟨sound.genuine.creations, sound.store, sound.networks, fun admission member => ?_⟩
  obtain ⟨pid, ⟨finding, ⟨arrival, reached, arrives, until_⟩, finds, past⟩, checked⟩ :=
    (traced_of_run run).admitted admission member
  exact ⟨pid, arrival, finding, reached, arrives, until_, finds, past,
    finds.vouched (sound_of_run (reached.trans until_)) checked⟩

def loopbackEnv : AdminEnv where
  tokenDigest token := token
  comparisonDigest _ name := name
  hashPassword password _ := .ok password
  algorithm _ := .ok "argon2id"
  verifyPassword password passwordHash := password == passwordHash
  parseUri _ := .ok ⟨some "http", some "localhost", some "localhost", "/", none⟩
  network _ := none
  quoted text := text
  publicBaseUrl := "http://localhost"
  allowedOrigins := []

def setupCall : LoginCall := ⟨none, {}, "researcher", "a-long-test-password"⟩

def asks (isGet : Bool) (csrf : Option String) : AdminRequest :=
  ⟨none, isGet, GatePc.logoutPath, { cookie := some "theme=dark; parlando_admin=adm", csrf }⟩

def firstVisit : List (Pool.Action AdminTask AdminInput) :=
  .spawn ⟨0, .login setupCall (.network true)⟩ ::
    List.replicate 7 (.run 0 { now := 100, token := "adm", csrfToken := "csrf" }) ++
    [.run 0 { token := "adm", csrfToken := "csrf" }, .spawn ⟨0, .request (asks true none) .network⟩] ++
    List.replicate 5 (.run 1 { now := 1000 }) ++
    [.spawn ⟨0, .request (asks false (some "csrf")) .network⟩] ++
    List.replicate 5 (.run 2 { now := 1000 })

theorem admin_admissions_firstVisit : ∃ w, (adminProgram loopbackEnv).machine.exec ⟨{}, []⟩
    firstVisit = some w ∧ w.shared.admitted.length = 2 ∧ w.shared.store.sessions = [] ∧
    ∀ admission ∈ w.shared.admitted, ∃ finding : Pool AdminPlane AdminTask,
      Vouched loopbackEnv finding.shared.history admission := by
  obtain ⟨w, ran⟩ : ∃ w, (adminProgram loopbackEnv).machine.exec ⟨{}, []⟩ firstVisit = some w :=
    ⟨_, rfl⟩
  refine ⟨w, ran, ?_, ?_, fun admission member => ?_⟩
  · cases ran
    rfl
  · cases ran
    rfl
  · obtain ⟨-, -, finding, -, -, -, -, -, vouched⟩ :=
      (admin_admissions (.of_exec_unguarded ran)).2.2.2 admission member
    exact ⟨finding, vouched⟩

end Parlando.Admin
