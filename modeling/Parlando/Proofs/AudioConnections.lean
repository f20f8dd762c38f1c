import Parlando.AudioConnections

namespace Parlando

open Concurrency

namespace AudioLoop

def registration : AudioLoop → Option Nat
  | register => none
  | connect c | running c _ | disconnect c _ | unregister c _ | returned c _ => some c

/-- Both generations, from the connection to the `AudioSessionRegistry` on. -/
def generations : AudioLoop → Option (Nat × Nat)
  | register | connect _ => none
  | running c g | disconnect c g | unregister c g | returned c g => some (c, g)

def isRegistered : AudioLoop → Bool
  | register | returned _ _ => false
  | _ => true

def isConnected : AudioLoop → Bool
  | running _ _ | disconnect _ _ => true
  | _ => false

end AudioLoop

/-- A loop connects only before all that have registered later. -/
def AudioLoop.inOrder (w : Pool AudioRole AudioLoop) : Pool.Action AudioLoop AudioInput → Bool
  | .spawn _ => true
  | .run pid _ =>
    match w.tasks[pid]? with
    | some (.connect c) => w.tasks.all fun u => u.generations.all fun (c', _) => c' ≤ c
    | _ => true

section
variable (w : Pool AudioRole AudioLoop)

def NewestRegistered (c : Nat) : Prop := w.Each fun _ u => ∀ c', u.registration = some c' → c' ≤ c

def NewestConnected (c : Nat) : Prop := w.Each fun _ u => ∀ c' g, u.generations = some (c', g) → c' ≤ c

/--
The loop that has registered last owns the connection, the one that has connected last is current,
and a connection is told to shut down when a newer one replaces it.
-/
structure Aligned : Prop where
  fresh : w.Each fun _ t => ∀ c, t.registration = some c → c < w.shared.nextGeneration
  minted : w.Each fun _ t => ∀ c g, t.generations = some (c, g) → g < w.shared.nextGeneration
  distinct : ∀ (p q : Nat) t u c, w.tasks[p]? = some t → w.tasks[q]? = some u →
    t.registration = some c → u.registration = some c → p = q
  apart : ∀ (p q : Nat) t u c c' g, w.tasks[p]? = some t → w.tasks[q]? = some u →
    t.generations = some (c, g) → u.generations = some (c', g) → p = q
  owner : ∀ c, w.shared.connection = some c → NewestRegistered w c ∧
    w.Has fun _ t => t.registration = some c ∧ t.isRegistered = true
  owned : w.Each fun _ t => ∀ c, t.registration = some c → t.isRegistered = true →
    c ∈ w.shared.told ∨ w.shared.connection = some c
  told : ∀ c ∈ w.shared.told, w.Has fun _ u => ∃ c', u.registration = some c' ∧ c < c'
  current : ∀ g, w.shared.peer = some g → w.Has fun _ t => ∃ c, t.generations = some (c, g) ∧
    t.isConnected = true ∧ NewestConnected w c
  connected : w.Each fun _ t => ∀ c g, t.generations = some (c, g) → t.isConnected = true →
    w.shared.peer = some g ∨ w.Has fun _ u => ∃ c' g', u.generations = some (c', g') ∧ c < c'

end

theorem AudioLoop.registration_of_generations {t : AudioLoop} {c g : Nat}
    (generations : t.generations = some (c, g)) : t.registration = some c := by
  cases t <;> cases generations <;> rfl

section
variable {w : Pool AudioRole AudioLoop} {pid : Nat} {role : AudioRole} {t t' : AudioLoop}

def audioAfter (w : Pool AudioRole AudioLoop) (pid : Nat) (role : AudioRole) (t' : AudioLoop) :
    Pool AudioRole AudioLoop := ⟨role, w.tasks.set pid t' ++ []⟩

/-- A loop registers: it owns the connection, and the owner before it is told. -/
theorem Aligned.registered (aligned : Aligned w) (ht : w.tasks[pid]? = some .register) :
    Aligned (audioAfter w pid w.shared.registerConnection.1
      (.connect w.shared.nextGeneration)) := by
  have fresh : ∀ {q : Nat} {u : AudioLoop} {c}, w.tasks[q]? = some u → u.registration = some c →
      c < w.shared.nextGeneration := fun hu mine => aligned.fresh _ _ hu _ mine
  have newest : NewestRegistered (audioAfter w pid w.shared.registerConnection.1
      (.connect w.shared.nextGeneration)) w.shared.nextGeneration := by
    intro q u hu c mine
    rcases Pool.task_stepped hu with ⟨rfl, rfl⟩ | ⟨-, hu⟩
    · cases mine
      exact Nat.le_refl _
    · exact Nat.le_of_lt (fresh hu mine)
  have own : (audioAfter w pid w.shared.registerConnection.1
      (.connect w.shared.nextGeneration)).tasks[pid]? = some (.connect w.shared.nextGeneration) :=
    Pool.self_after ht
  constructor
  · intro q u hu c mine
    exact Nat.lt_succ_of_le (newest q u hu c mine)
  · intro q u hu c g mine
    rcases Pool.task_stepped hu with ⟨rfl, rfl⟩ | ⟨-, hu⟩
    · cases mine
    · exact Nat.lt_succ_of_lt (aligned.minted q u hu c g mine)
  · intro p q t u c hp hq mine theirs
    rcases Pool.task_stepped hp with ⟨rfl, rfl⟩ | ⟨-, hp'⟩ <;>
      rcases Pool.task_stepped hq with ⟨rfl, rfl⟩ | ⟨-, hq'⟩
    · rfl
    · cases mine
      exact absurd (fresh hq' theirs) (Nat.lt_irrefl _)
    · cases theirs
      exact absurd (fresh hp' mine) (Nat.lt_irrefl _)
    · exact aligned.distinct p q t u c hp' hq' mine theirs
  · intro p q t u c c' g hp hq mine theirs
    rcases Pool.task_stepped hp with ⟨rfl, rfl⟩ | ⟨-, hp'⟩ <;>
      rcases Pool.task_stepped hq with ⟨rfl, rfl⟩ | ⟨-, hq'⟩
    · rfl
    · cases mine
    · cases theirs
    · exact aligned.apart p q t u c c' g hp' hq' mine theirs
  · intro c owns
    cases owns
    exact ⟨newest, pid, _, own, rfl, rfl⟩
  · intro q u hu c mine registered
    rcases Pool.task_stepped hu with ⟨rfl, rfl⟩ | ⟨-, hu⟩
    · cases mine
      exact .inr rfl
    · refine .inl (List.mem_append.mpr ?_)
      rcases aligned.owned q u hu c mine registered with told | owns
      · exact .inr told
      · exact .inl (by rw [owns]; exact List.mem_singleton_self c)
  · intro c told
    rcases List.mem_append.mp told with replaced | told
    · have owns : w.shared.connection = some c := by simpa using replaced
      obtain ⟨-, q, u, hu, mine, -⟩ := aligned.owner c owns
      exact ⟨pid, _, own, _, rfl, fresh hu mine⟩
    · exact (aligned.told c told).after ht (fun ⟨_, mine, _⟩ => by cases mine) fun _ _ _ holds => holds
  · intro g peer
    obtain ⟨q, u, hu, c, mine, connected, newest⟩ := aligned.current g peer
    have other : q ≠ pid := by
      rintro rfl
      cases hu.symm.trans ht
      cases mine
    refine ⟨q, u, Pool.other_after other hu, c, mine, connected, fun q' u' hu' c' g' theirs => ?_⟩
    rcases Pool.task_stepped hu' with ⟨rfl, rfl⟩ | ⟨-, hu'⟩
    · cases theirs
    · exact newest q' u' hu' c' g' theirs
  · intro q u hu c g mine connected
    rcases Pool.task_stepped hu with ⟨rfl, rfl⟩ | ⟨-, hu⟩
    · cases mine
    · refine (aligned.connected q u hu c g mine connected).imp_right fun newer => ?_
      exact newer.after ht (fun ⟨_, _, mine, _⟩ => by cases mine) fun _ _ _ holds => holds

/-- A loop connects while none that has registered later has: it is current. -/
theorem Aligned.connects {c : Nat} (aligned : Aligned w) (ht : w.tasks[pid]? = some (.connect c))
    (inOrder : NewestConnected w c) :
    Aligned (audioAfter w pid w.shared.connect.1 (.running c w.shared.nextGeneration)) := by
  have own : (audioAfter w pid w.shared.connect.1
      (.running c w.shared.nextGeneration)).tasks[pid]? =
        some (.running c w.shared.nextGeneration) := Pool.self_after ht
  have newest : NewestConnected (audioAfter w pid w.shared.connect.1
      (.running c w.shared.nextGeneration)) c := by
    intro q u hu c' g mine
    rcases Pool.task_stepped hu with ⟨rfl, rfl⟩ | ⟨-, hu⟩
    · cases mine
      exact Nat.le_refl _
    · exact inOrder q u hu c' g mine
  have minted : ∀ {q : Nat} {u : AudioLoop} {c' g}, w.tasks[q]? = some u →
      u.generations = some (c', g) → g < w.shared.nextGeneration := fun hu mine =>
    aligned.minted _ _ hu _ _ mine
  constructor
  · intro q u hu c' mine
    rcases Pool.task_stepped hu with ⟨rfl, rfl⟩ | ⟨-, hu⟩
    · cases mine
      exact Nat.lt_succ_of_lt (aligned.fresh q _ ht c rfl)
    · exact Nat.lt_succ_of_lt (aligned.fresh q u hu c' mine)
  · intro q u hu c' g mine
    rcases Pool.task_stepped hu with ⟨rfl, rfl⟩ | ⟨-, hu⟩
    · cases mine
      exact Nat.lt_succ_self _
    · exact Nat.lt_succ_of_lt (minted hu mine)
  · intro p q t u c' hp hq mine theirs
    rcases Pool.task_stepped hp with ⟨rfl, rfl⟩ | ⟨-, hp'⟩ <;>
      rcases Pool.task_stepped hq with ⟨rfl, rfl⟩ | ⟨-, hq'⟩
    · rfl
    · exact aligned.distinct p q _ u c' ht hq' mine theirs
    · exact aligned.distinct p q t _ c' hp' ht mine theirs
    · exact aligned.distinct p q t u c' hp' hq' mine theirs
  · intro p q t u c' c'' g hp hq mine theirs
    rcases Pool.task_stepped hp with ⟨rfl, rfl⟩ | ⟨-, hp'⟩ <;>
      rcases Pool.task_stepped hq with ⟨rfl, rfl⟩ | ⟨-, hq'⟩
    · rfl
    · cases mine
      exact absurd (minted hq' theirs) (Nat.lt_irrefl _)
    · cases theirs
      exact absurd (minted hp' mine) (Nat.lt_irrefl _)
    · exact aligned.apart p q t u c' c'' g hp' hq' mine theirs
  · intro c' owns
    obtain ⟨last, has⟩ := aligned.owner c' owns
    refine ⟨fun q u hu c'' mine => ?_, has.after ht (fun holds => holds) fun _ _ _ holds => holds⟩
    rcases Pool.task_stepped hu with ⟨rfl, rfl⟩ | ⟨-, hu⟩
    · exact last q _ ht c'' mine
    · exact last q u hu c'' mine
  · intro q u hu c' mine registered
    rcases Pool.task_stepped hu with ⟨rfl, rfl⟩ | ⟨-, hu⟩
    · exact aligned.owned q _ ht c' mine rfl
    · exact aligned.owned q u hu c' mine registered
  · intro c' told
    exact (aligned.told c' told).after ht (fun holds => holds) fun _ _ _ holds => holds
  · intro g peer
    cases peer
    exact ⟨pid, _, own, c, rfl, rfl, newest⟩
  · intro q u hu c' g mine connected
    rcases Pool.task_stepped hu with ⟨rfl, rfl⟩ | ⟨other, before⟩
    · cases mine
      exact .inl rfl
    · -- Whoever was connected before has registered before, too.
      refine .inr ⟨pid, _, own, c, _, rfl, Nat.lt_of_le_of_ne (inOrder q u before c' g mine) ?_⟩
      rintro rfl
      exact other (aligned.distinct q pid u _ c' before ht
        (AudioLoop.registration_of_generations mine) rfl)

structure AudioLoop.GoesOn (t t' : AudioLoop) : Prop where
  registration : t'.registration = t.registration
  generations : t'.generations = t.generations
  registered : t'.isRegistered = true → t.isRegistered = true
  connected : t'.isConnected = true → t.isConnected = true

/-- A loop goes on with its generations, and its entries go with it. -/
theorem Aligned.goesOn (aligned : Aligned w) (ht : w.tasks[pid]? = some t) (goesOn : t.GoesOn t')
    (next : role.nextGeneration = w.shared.nextGeneration) (same : role.told = w.shared.told)
    (owns : ∀ c, role.connection = some c ↔ w.shared.connection = some c ∧
      (t.registration = some c → t'.isRegistered = true))
    (peer : ∀ g, role.peer = some g ↔ w.shared.peer = some g ∧
      ∀ c, t.generations = some (c, g) → t'.isConnected = true) :
    Aligned (audioAfter w pid role t') := by
  have stands : ∀ {q : Nat} {u : AudioLoop}, (audioAfter w pid role t').tasks[q]? = some u →
      ∃ v, w.tasks[q]? = some v ∧ v.GoesOn u := by
    intro q u hu
    rcases Pool.task_stepped hu with ⟨rfl, rfl⟩ | ⟨-, hu⟩
    · exact ⟨t, ht, goesOn⟩
    · exact ⟨u, hu, rfl, rfl, id, id⟩
  constructor
  · intro q u hu c mine
    obtain ⟨v, hv, goesOn⟩ := stands hu
    exact next ▸ aligned.fresh q v hv c (goesOn.registration ▸ mine)
  · intro q u hu c g mine
    obtain ⟨v, hv, goesOn⟩ := stands hu
    exact next ▸ aligned.minted q v hv c g (goesOn.generations ▸ mine)
  · intro p q t u c hp hq mine theirs
    obtain ⟨v, hv, goesOn⟩ := stands hp
    obtain ⟨v', hv', goesOn'⟩ := stands hq
    exact aligned.distinct p q v v' c hv hv' (goesOn.registration ▸ mine)
      (goesOn'.registration ▸ theirs)
  · intro p q t u c c' g hp hq mine theirs
    obtain ⟨v, hv, goesOn⟩ := stands hp
    obtain ⟨v', hv', goesOn'⟩ := stands hq
    exact aligned.apart p q v v' c c' g hv hv' (goesOn.generations ▸ mine)
      (goesOn'.generations ▸ theirs)
  · intro c mine
    obtain ⟨mine, keeps⟩ := (owns c).mp mine
    obtain ⟨last, has⟩ := aligned.owner c mine
    refine ⟨fun q u hu c' theirs => ?_, has.after ht ?_ fun _ _ _ holds => holds⟩
    · obtain ⟨v, hv, goesOn⟩ := stands hu
      exact last q v hv c' (goesOn.registration ▸ theirs)
    · exact fun holds => ⟨goesOn.registration.trans holds.1, keeps holds.1⟩
  · intro q u hu c mine registered
    change c ∈ role.told ∨ role.connection = some c
    rw [same]
    obtain ⟨v, hv, goesOn⟩ := stands hu
    have before := goesOn.registration ▸ mine
    refine (aligned.owned q v hv c before (goesOn.registered registered)).imp_right fun owned => ?_
    refine (owns c).mpr ⟨owned, fun own => ?_⟩
    cases aligned.distinct pid q t v c ht hv own before
    rcases Pool.task_stepped hu with ⟨-, rfl⟩ | ⟨other, -⟩
    · exact registered
    · exact absurd rfl other
  · intro c told
    change c ∈ role.told at told
    rw [same] at told
    refine (aligned.told c told).after ht (fun ⟨c', mine, newer⟩ => ?_) fun _ _ _ holds => holds
    exact ⟨c', goesOn.registration.trans mine, newer⟩
  · intro g mine
    obtain ⟨mine, keeps⟩ := (peer g).mp mine
    obtain ⟨q, u, hu, c, theirs, connected, newest⟩ := aligned.current g mine
    have before : w.Has fun _ u => u.generations = some (c, g) ∧ u.isConnected = true :=
      ⟨q, u, hu, theirs, connected⟩
    have after : (audioAfter w pid role t').Has fun _ u =>
        u.generations = some (c, g) ∧ u.isConnected = true :=
      before.after ht (fun holds => ⟨goesOn.generations.trans holds.1, keeps c holds.1⟩)
        fun _ _ _ holds => holds
    obtain ⟨q', u', hu', theirs, connected⟩ := after
    refine ⟨q', u', hu', c, theirs, connected, fun p v hv c' g' other => ?_⟩
    obtain ⟨v', hv', goesOn⟩ := stands hv
    exact newest p v' hv' c' g' (goesOn.generations ▸ other)
  · intro q u hu c g mine connected
    obtain ⟨v, hv, goesOn'⟩ := stands hu
    have before := goesOn'.generations ▸ mine
    rcases aligned.connected q v hv c g before (goesOn'.connected connected) with current | newer
    · refine .inl ((peer g).mpr ⟨current, fun c' own => ?_⟩)
      cases aligned.apart pid q t v c' c g ht hv own before
      rcases Pool.task_stepped hu with ⟨-, rfl⟩ | ⟨other, -⟩
      · exact connected
      · exact absurd rfl other
    · refine .inr (newer.after ht (fun ⟨c', g', mine, newer⟩ => ?_) fun _ _ _ holds => holds)
      exact ⟨c', g', goesOn.generations.trans mine, newer⟩

theorem Aligned.begun (aligned : Aligned w) :
    Aligned ⟨w.shared, w.tasks ++ [.register]⟩ := by
  have stands : ∀ {q : Nat} {u : AudioLoop}, (w.tasks ++ [.register])[q]? = some u →
      w.tasks[q]? = some u ∨ u = .register := Pool.task_of_append
  constructor
  · exact aligned.fresh.append (fun _ _ holds => holds) fun _ c mine => by cases mine
  · exact aligned.minted.append (fun _ _ holds => holds) fun _ c g mine => by cases mine
  · intro p q t u c hp hq mine theirs
    rcases stands hp with hp | rfl
    · rcases stands hq with hq | rfl
      · exact aligned.distinct p q t u c hp hq mine theirs
      · cases theirs
    · cases mine
  · intro p q t u c c' g hp hq mine theirs
    rcases stands hp with hp | rfl
    · rcases stands hq with hq | rfl
      · exact aligned.apart p q t u c c' g hp hq mine theirs
      · cases theirs
    · cases mine
  · intro c owns
    obtain ⟨last, has⟩ := aligned.owner c owns
    exact ⟨last.append (fun _ _ holds => holds) fun _ c mine => (by cases mine), has.append⟩
  · exact aligned.owned.append (fun _ _ holds => holds) fun _ c mine => by cases mine
  · exact fun c told => (aligned.told c told).append
  · intro g peer
    obtain ⟨q, u, hu, c, mine, connected, newest⟩ := aligned.current g peer
    have here : (⟨w.shared, w.tasks⟩ : Pool AudioRole AudioLoop).Has fun _ u =>
        u.generations = some (c, g) ∧ u.isConnected = true := ⟨q, u, hu, mine, connected⟩
    obtain ⟨q', u', hu', mine', connected'⟩ := here.append
    exact ⟨q', u', hu', c, mine', connected',
      newest.append (fun _ _ holds => holds) fun _ c g mine => by cases mine⟩
  · exact aligned.connected.append
      (fun _ _ holds c g mine connected => (holds c g mine connected).imp_right Pool.Has.append)
      fun _ c g mine => by cases mine

end

theorem audioProgram_step {role role' : AudioRole} {pid : Nat} {input : AudioInput}
    {t t' : AudioLoop} {started : List AudioLoop}
    (h : audioProgram.step role pid t input = some (role', t', started)) :
    t.step role input = some (role', t') ∧ started = [] := by
  obtain ⟨⟨role, next⟩, stepped, same⟩ := Option.map_eq_some_iff.mp h
  cases same
  exact ⟨stepped, rfl⟩

theorem Aligned.step {w w' : Pool AudioRole AudioLoop} {a : Pool.Action AudioLoop AudioInput}
    (aligned : Aligned w) (met : AudioLoop.inOrder w a = true) (h : audioMachine.step w a = some w') :
    Aligned w' := by
  rcases Program.step_cases h with ⟨t, rfl, entered, rfl⟩ |
    ⟨pid, input, t, role, t', started, rfl, ht, hs, rfl⟩
  · cases beq_iff_eq.mp entered
    exact aligned.begun
  obtain ⟨stepped, rfl⟩ := audioProgram_step hs
  cases t with
  | register =>
    cases stepped
    exact aligned.registered ht
  | connect c =>
    cases stepped
    refine aligned.connects ht fun q u hu c' g mine => ?_
    have met : w.tasks.all (fun u => u.generations.all fun (c', _) => c' ≤ c) = true := by
      simpa only [AudioLoop.inOrder, ht] using met
    have here := List.all_eq_true.mp met u (List.mem_of_getElem? hu)
    rw [mine] at here
    exact of_decide_eq_true here
  | running c g =>
    have ends : (AudioLoop.running c g).GoesOn (.disconnect c g) := ⟨rfl, rfl, id, id⟩
    have goes : (AudioLoop.running c g).GoesOn (.running c g) := ⟨rfl, rfl, id, id⟩
    have kept : ∀ {t'}, (AudioLoop.running c g).GoesOn t' → t'.isRegistered = true →
        t'.isConnected = true → Aligned (audioAfter w pid w.shared t') :=
      fun goesOn registered connected => aligned.goesOn ht goesOn rfl rfl
        (fun _ => ⟨fun owns => ⟨owns, fun _ => registered⟩, And.left⟩)
        fun _ => ⟨fun peer => ⟨peer, fun _ _ => connected⟩, And.left⟩
    simp only [AudioLoop.step] at stepped
    repeat' split at stepped
    all_goals cases stepped
    · exact kept ends rfl rfl
    · exact kept goes rfl rfl
    · exact kept ends rfl rfl
    · exact kept ends rfl rfl
  | disconnect c g =>
    cases stepped
    refine aligned.goesOn ht ⟨rfl, rfl, id, fun no => by cases no⟩ ?_ ?_ ?_ ?_
    all_goals unfold AudioRole.disconnect
    · split <;> rfl
    · split <;> rfl
    · intro c'
      split <;> exact ⟨fun owns => ⟨owns, fun _ => rfl⟩, And.left⟩
    · intro g'
      split
      · rename_i here
        constructor
        · exact fun none => by cases none
        · rintro ⟨there, goesOn⟩
          cases here.symm.trans there
          cases goesOn c rfl
      · rename_i elsewhere
        refine ⟨fun peer => ⟨peer, fun c' own => ?_⟩, And.left⟩
        cases own
        exact absurd peer elsewhere
  | unregister c g =>
    cases stepped
    refine aligned.goesOn ht ⟨rfl, rfl, fun no => (by cases no), fun no => by cases no⟩ ?_ ?_ ?_ ?_
    all_goals unfold AudioRole.unregisterConnection
    · split <;> rfl
    · split <;> rfl
    · intro c'
      split
      · rename_i here
        constructor
        · exact fun none => by cases none
        · rintro ⟨there, goesOn⟩
          cases here.symm.trans there
          cases goesOn rfl
      · rename_i elsewhere
        refine ⟨fun owns => ⟨owns, fun own => ?_⟩, And.left⟩
        cases own
        exact absurd owns elsewhere
    · intro g'
      have peer : (if w.shared.connection = some c then { w.shared with connection := none }
          else w.shared).peer = w.shared.peer := by split <;> rfl
      rw [peer]
      refine ⟨fun current => ⟨current, fun c' own => ?_⟩, And.left⟩
      obtain ⟨q, u, hu, c'', theirs, connected, -⟩ := aligned.current g' current
      cases aligned.apart q pid u _ c'' c' g' hu ht theirs own
      cases hu.symm.trans ht
      cases connected
  | returned c g => cases stepped

theorem aligned_empty : Aligned ⟨{}, []⟩ :=
  ⟨nofun, nofun, nofun, nofun, nofun, nofun, nofun, nofun, nofun⟩

/--
While no loop is between two steps of its startup or shutdown, the two tables name the same loop;
and a running loop that has not been told to shut down is that loop, the only one that serves.
-/
theorem audio_tables_agree {w : Pool AudioRole AudioLoop}
    (run : audioMachine.Run (fun w a => AudioLoop.inOrder w a = true) ⟨{}, []⟩ w)
    (settled : w.Each fun _ t => t.isSettled = true) :
    ((w.shared.connection = none ∧ w.shared.peer = none) ∨
      w.Has fun _ t => ∃ c g, t.generations = some (c, g) ∧ w.shared.connection = some c ∧
        w.shared.peer = some g) ∧
    ∀ (pid : Nat) c g, w.tasks[pid]? = some (.running c g) → c ∉ w.shared.told →
      w.shared.connection = some c ∧
      (AudioLoop.running c g).serves w.shared = true ∧
      (w.Each fun q u => u.serves w.shared = true → q = pid) ∧
      ∀ acceptable, (AudioLoop.running c g).step w.shared (.frame acceptable) =
        some (w.shared, .running c g) := by
  have aligned : Aligned w := run.invariant aligned_empty fun aligned met h => aligned.step met h
  have both : ∀ {q : Nat} {u : AudioLoop} {c}, w.tasks[q]? = some u → u.registration = some c →
      ∃ g, u.generations = some (c, g) := by
    intro q u c hu mine
    have here := settled q u hu
    cases u <;> first | exact absurd here Bool.false_ne_true | cases mine
    all_goals exact ⟨_, rfl⟩
  have newest : ∀ {c}, NewestRegistered w c → NewestConnected w c := fun last q u hu c' g mine =>
    last q u hu c' (AudioLoop.registration_of_generations mine)
  have current : ∀ {c}, w.shared.connection = some c → w.Has fun _ t => ∃ g,
      t.generations = some (c, g) ∧ w.shared.peer = some g := by
    intro c owns
    obtain ⟨last, q, u, hu, mine, registered⟩ := aligned.owner c owns
    obtain ⟨g, generations⟩ := both hu mine
    have connected : u.isConnected = true := by
      have here := settled q u hu
      cases u <;> first | exact absurd here Bool.false_ne_true | cases mine
      all_goals first | rfl | cases registered
    refine ⟨q, u, hu, g, generations, ?_⟩
    refine (aligned.connected q u hu c g generations connected).resolve_right ?_
    rintro ⟨q', u', hu', c', g', mine', newer⟩
    exact absurd (newest last q' u' hu' c' g' mine') (Nat.not_le.mpr newer)
  constructor
  · cases owns : w.shared.connection with
    | some c =>
      obtain ⟨q, u, hu, g, mine, peer⟩ := current owns
      exact .inr ⟨q, u, hu, c, g, mine, rfl, peer⟩
    | none =>
      cases peer : w.shared.peer with
      | none => exact .inl ⟨rfl, rfl⟩
      | some g =>
        obtain ⟨q, u, hu, c, mine, connected, last⟩ := aligned.current g peer
        have registered : u.isRegistered = true := by cases u <;> first | rfl | cases connected
        rcases aligned.owned q u hu c (AudioLoop.registration_of_generations mine) registered with
          told | owned
        · obtain ⟨q', u', hu', c', mine', newer⟩ := aligned.told c told
          obtain ⟨g', generations⟩ := both hu' mine'
          exact absurd (last q' u' hu' c' g' generations) (Nat.not_le.mpr newer)
        · cases owns.symm.trans owned
  · intro pid c g ht untold
    have owns := (aligned.owned pid _ ht c rfl rfl).resolve_left untold
    obtain ⟨q, u, hu, g', mine, peer⟩ := current owns
    cases aligned.distinct q pid u _ c hu ht (AudioLoop.registration_of_generations mine) rfl
    cases hu.symm.trans ht
    cases mine
    have serves : w.shared.isCurrent g = true := by rw [AudioRole.isCurrent, peer, beq_self_eq_true]
    refine ⟨owns, serves, fun q' u hu' theirs => ?_, fun acceptable => ?_⟩
    · cases u with
      | running c' g' =>
        have theirs : w.shared.isCurrent g' = true := theirs
        rw [AudioRole.isCurrent, peer, beq_iff_eq] at theirs
        exact aligned.apart q' pid _ _ c' c g hu' ht (Option.some.inj theirs ▸ rfl) rfl
      | _ => cases theirs
    · simp [AudioLoop.step, serves]

namespace AudioLoop

/-- Two loops start one after the other; the second replaces the first. -/
def replacing : List (Pool.Action AudioLoop AudioInput) :=
  [.spawn .register, .spawn .register, .run 0 .closed, .run 0 .closed, .run 1 .closed, .run 1 .closed]

/-- Two loops start at the same time; the first to register is the last to connect. -/
def crossing : List (Pool.Action AudioLoop AudioInput) :=
  [.spawn .register, .spawn .register, .run 0 .closed, .run 1 .closed, .run 1 .closed, .run 0 .closed]

end AudioLoop

/-- After one loop has replaced another the new one alone serves. -/
theorem audio_tables_agree_replacing : ∃ w : Pool AudioRole AudioLoop,
    w.shared.told = [0] ∧ w.shared.connection = some 2 ∧
      (AudioLoop.running 2 3).serves w.shared = true := by
  have h : ((audioMachine.restrict AudioLoop.inOrder).exec ⟨{}, []⟩ AudioLoop.replacing).map
      (fun w => (w.tasks.all AudioLoop.isSettled, w.tasks[1]?, w.shared.told)) =
        some (true, some (.running 2 3), [0]) := by decide
  obtain ⟨w, reached, seen⟩ := Option.map_eq_some_iff.mp h
  simp only [Prod.mk.injEq, List.all_eq_true] at seen
  obtain ⟨settled, ht, told⟩ := seen
  have agree := (audio_tables_agree (.of_exec (fun _ _ met => met) reached)
    fun pid t ht => settled t (List.mem_of_getElem? ht)).2 1 2 3 ht (by rw [told]; decide)
  exact ⟨w, told, agree.1, agree.2.1⟩

/--
Two loops that start at the same time: the tables name different ones, and once the first has shut
down as it was told, the second serves nobody although its connection is the role's.
-/
theorem audio_tables_cross :
    (∃ w, audioMachine.Run Machine.unguarded ⟨{}, []⟩ w ∧ w.Each (fun _ t => t.isSettled = true) ∧
      w.tasks = [.running 0 3, .running 1 2] ∧ w.shared.connection = some 1 ∧
      w.shared.peer = some 3) ∧
    ∃ w, audioMachine.Run Machine.unguarded ⟨{}, []⟩ w ∧ w.Each (fun _ t => t.isSettled = true) ∧
      w.tasks = [.returned 0 3, .running 1 2] ∧ w.shared.told = [0] ∧
      w.shared.connection = some 1 ∧ w.shared.peer = none := by
  constructor
  · have h : (audioMachine.exec ⟨{}, []⟩ AudioLoop.crossing).map (fun w =>
        (w.tasks.all AudioLoop.isSettled, w.tasks, w.shared.connection, w.shared.peer)) =
          some (true, [.running 0 3, .running 1 2], some 1, some 3) := by decide
    obtain ⟨w, reached, seen⟩ := Option.map_eq_some_iff.mp h
    simp only [Prod.mk.injEq, List.all_eq_true] at seen
    obtain ⟨settled, tasks, owns, peer⟩ := seen
    exact ⟨w, .of_exec_unguarded reached, fun pid t ht => settled t (List.mem_of_getElem? ht), tasks,
      owns, peer⟩
  · have h : (audioMachine.exec ⟨{}, []⟩ (AudioLoop.crossing ++
        [.run 0 .shutdown, .run 0 .closed, .run 0 .closed])).map (fun w =>
          (w.tasks.all AudioLoop.isSettled, w.tasks, w.shared.told, w.shared.connection,
            w.shared.peer)) =
              some (true, [.returned 0 3, .running 1 2], [0], some 1, none) := by decide
    obtain ⟨w, reached, seen⟩ := Option.map_eq_some_iff.mp h
    simp only [Prod.mk.injEq, List.all_eq_true] at seen
    obtain ⟨settled, tasks, told, owns, peer⟩ := seen
    exact ⟨w, .of_exec_unguarded reached, fun pid t ht => settled t (List.mem_of_getElem? ht), tasks,
      told, owns, peer⟩

end Parlando
