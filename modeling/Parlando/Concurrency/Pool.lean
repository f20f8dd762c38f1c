import Parlando.Concurrency.Machine
import Mathlib.Algebra.GroupWithZero.Nat
import Mathlib.Data.List.GetD

namespace Parlando.Concurrency

variable {σ τ ι : Type*}

/-- Changing one entry changes a sum by that entry alone. -/
theorem sum_map_set {α : Type*} (f : α → Nat) {xs : List α} {i : Nat} {x y : α}
    (h : xs[i]? = some x) : ((xs.set i y).map f).sum + f x = (xs.map f).sum + f y := by
  induction xs generalizing i with
  | nil => cases h
  | cons z zs ih =>
    cases i with
    | zero =>
      cases h
      simp only [List.set_cons_zero, List.map_cons, List.sum_cons]
      omega
    | succ i =>
      have rest := ih h
      simp only [List.set_cons_succ, List.map_cons, List.sum_cons]
      omega

/-- Shared state and the tasks working on it; a task keeps its index for ever. -/
structure Pool (σ τ : Type*) where
  shared : σ
  tasks : List τ

/-- Either the environment starts a task, or one task takes its next atomic step. -/
inductive Pool.Action (τ ι : Type*) where
  | spawn (task : τ)
  | run (pid : Nat) (input : ι)

/--
The code of the tasks: where one may enter, and its steps. A step may change the shared state, the
task and start new tasks.
-/
structure Program (σ τ ι : Type*) where
  entry : σ → τ → Bool
  step : σ → Nat → τ → ι → Option (σ × τ × List τ)

namespace Program

variable (P : Program σ τ ι)

/-- The interleaving semantics: one atomic step of one task at a time. -/
def machine : Machine (Pool σ τ) (Pool.Action τ ι) where
  step w
    | .spawn t => if P.entry w.shared t then some { w with tasks := w.tasks ++ [t] } else none
    | .run pid input =>
      w.tasks[pid]?.bind fun t => (P.step w.shared pid t input).map fun (s, t', started) =>
        ⟨s, w.tasks.set pid t' ++ started⟩

variable {P} {w w' : Pool σ τ} {a : Pool.Action τ ι}

/-- Everything a step of the pool can be. -/
theorem step_cases (h : P.machine.step w a = some w') :
    (∃ t, a = .spawn t ∧ P.entry w.shared t = true ∧ w' = ⟨w.shared, w.tasks ++ [t]⟩) ∨
    (∃ pid input t s t' started, a = .run pid input ∧ w.tasks[pid]? = some t ∧
      P.step w.shared pid t input = some (s, t', started) ∧
      w' = ⟨s, w.tasks.set pid t' ++ started⟩) := by
  cases a with
  | spawn t =>
    change (if P.entry w.shared t then some _ else none) = some w' at h
    split at h
    · rename_i entry
      exact .inl ⟨t, rfl, entry, (Option.some.inj h).symm⟩
    · cases h
  | run pid input =>
    obtain ⟨t, ht, h⟩ := Option.bind_eq_some_iff.mp h
    obtain ⟨⟨s, t', started⟩, hs, h⟩ := Option.map_eq_some_iff.mp h
    exact .inr ⟨pid, input, t, s, t', started, rfl, ht, hs, h.symm⟩

end Program

namespace Pool

/-- Some task of the pool has the property. -/
def Has (w : Pool σ τ) (p : Nat → τ → Prop) : Prop :=
  ∃ pid t, w.tasks[pid]? = some t ∧ p pid t

/-- Every task of the pool has the property. -/
def Each (w : Pool σ τ) (p : Nat → τ → Prop) : Prop :=
  ∀ pid t, w.tasks[pid]? = some t → p pid t

/-- A task of the pool after a step is the stepping one, one of the others, or a new one. -/
theorem task_after {ts started : List τ} {pid q : Nat} {t' u : τ}
    (h : (ts.set pid t' ++ started)[q]? = some u) :
    (q = pid ∧ u = t') ∨ (q ≠ pid ∧ ts[q]? = some u) ∨ u ∈ started := by
  by_cases hq : q < (ts.set pid t').length
  · rw [List.getElem?_append_left hq, List.getElem?_set] at h
    split at h
    · rename_i same
      split at h
      · exact .inl ⟨same.symm, (Option.some.inj h).symm⟩
      · cases h
    · rename_i other
      exact .inr (.inl ⟨fun e => other e.symm, h⟩)
  · rw [List.getElem?_append_right (Nat.le_of_not_lt hq)] at h
    exact .inr (.inr (List.mem_of_getElem? h))

/-- A step that starts no task. -/
theorem task_stepped {ts : List τ} {pid q : Nat} {t' u : τ}
    (h : (ts.set pid t' ++ [])[q]? = some u) :
    (q = pid ∧ u = t') ∨ (q ≠ pid ∧ ts[q]? = some u) := by
  rcases task_after h with self | other | new
  · exact .inl self
  · exact .inr other
  · exact absurd new List.not_mem_nil

theorem other_after {ts started : List τ} {pid q : Nat} {t' u : τ} (other : q ≠ pid)
    (h : ts[q]? = some u) : (ts.set pid t' ++ started)[q]? = some u := by
  have hq : q < ts.length := (List.getElem?_eq_some_iff.mp h).1
  rw [List.getElem?_append_left (by simpa using hq), List.getElem?_set_ne (Ne.symm other)]
  exact h

theorem self_after {ts started : List τ} {pid : Nat} {t t' : τ}
    (h : ts[pid]? = some t) : (ts.set pid t' ++ started)[pid]? = some t' := by
  have hq : pid < ts.length := (List.getElem?_eq_some_iff.mp h).1
  rw [List.getElem?_append_left (by simpa using hq), List.getElem?_set_self hq]

theorem task_of_append {ts : List τ} {q : Nat} {t u : τ} (h : (ts ++ [t])[q]? = some u) :
    ts[q]? = some u ∨ u = t := by
  by_cases hq : q < ts.length
  · exact .inl ((List.getElem?_append_left hq).symm.trans h)
  · rw [List.getElem?_append_right (Nat.le_of_not_lt hq)] at h
    exact .inr (by simpa using List.mem_of_getElem? h)

/-- What every task has, and a new one, every task of the grown pool has. -/
theorem Each.append {s s' : σ} {ts : List τ} {t : τ} {p q : Nat → τ → Prop}
    (each : (⟨s, ts⟩ : Pool σ τ).Each p) (kept : ∀ r u, p r u → q r u) (new : ∀ r, q r t) :
    (⟨s', ts ++ [t]⟩ : Pool σ τ).Each q := by
  intro r u hu
  rcases task_of_append hu with hu | rfl
  · exact kept r u (each r u hu)
  · exact new r

theorem Each.of_append {s s' : σ} {ts us : List τ} {p : Nat → τ → Prop}
    (each : (⟨s, ts ++ us⟩ : Pool σ τ).Each p) : (⟨s', ts⟩ : Pool σ τ).Each p :=
  fun r u hu =>
    each r u ((List.getElem?_append_left (List.getElem?_eq_some_iff.mp hu).1).trans hu)

/-- What holds of the stepping task, of the others and of the new ones holds of every task. -/
theorem Each.after {s : σ} {ts started : List τ} {pid : Nat} {t' : τ} {p : Nat → τ → Prop}
    (self : p pid t') (others : ∀ r u, r ≠ pid → ts[r]? = some u → p r u)
    (new : ∀ u ∈ started, ∀ r, p r u) :
    (⟨s, ts.set pid t' ++ started⟩ : Pool σ τ).Each p := by
  intro r u hu
  rcases task_after hu with ⟨rfl, rfl⟩ | ⟨other, hu⟩ | hu
  · exact self
  · exact others r u other hu
  · exact new u hu r

/-- A property some task has survives a step in which the stepping task keeps it. -/
theorem Has.after {s s' : σ} {ts started : List τ} {pid : Nat} {t t' : τ}
    {p q : Nat → τ → Prop} (has : (⟨s, ts⟩ : Pool σ τ).Has p) (ht : ts[pid]? = some t)
    (kept : p pid t → q pid t') (others : ∀ r u, r ≠ pid → p r u → q r u) :
    (⟨s', ts.set pid t' ++ started⟩ : Pool σ τ).Has q := by
  obtain ⟨r, u, hu, pu⟩ := has
  by_cases same : r = pid
  · subst same
    have : u = t := Option.some.inj (hu.symm.trans ht)
    subst this
    exact ⟨r, t', self_after ht, kept pu⟩
  · exact ⟨r, u, other_after same hu, others r u same pu⟩

theorem Has.append {s s' : σ} {ts started : List τ} {p : Nat → τ → Prop}
    (has : (⟨s, ts⟩ : Pool σ τ).Has p) : (⟨s', ts ++ started⟩ : Pool σ τ).Has p := by
  obtain ⟨r, u, hu, pu⟩ := has
  exact ⟨r, u, (List.getElem?_append_left (List.getElem?_eq_some_iff.mp hu).1).trans hu, pu⟩

end Pool

/--
A proof outline in the style of Owicki and Gries: an invariant of the shared state and an
assertion for each task at its current point, under a guard on the steps taken.
-/
structure Outline (P : Program σ τ ι) (guard : Pool σ τ → Pool.Action τ ι → Prop) where
  inv : σ → Prop
  asn : σ → Nat → τ → Prop
  entry : ∀ {w t} pid, inv w.shared → guard w (.spawn t) → P.entry w.shared t = true →
    asn w.shared pid t
  step : ∀ {w pid input t s' t' started}, inv w.shared → w.Each (asn w.shared) →
    guard w (.run pid input) → w.tasks[pid]? = some t →
    P.step w.shared pid t input = some (s', t', started) →
    inv s' ∧ asn s' pid t' ∧ ∀ u ∈ started, ∀ q, asn s' q u
  interference : ∀ {w pid input t s' t' started q u}, inv w.shared → w.Each (asn w.shared) →
    guard w (.run pid input) → w.tasks[pid]? = some t →
    P.step w.shared pid t input = some (s', t', started) →
    q ≠ pid → w.tasks[q]? = some u → asn w.shared q u → asn s' q u

namespace Outline

variable {P : Program σ τ ι} {guard : Pool σ τ → Pool.Action τ ι → Prop} (O : Outline P guard)

/-- The shared invariant holds and every task stands at a point whose assertion holds. -/
structure Valid (w : Pool σ τ) : Prop where
  inv : O.inv w.shared
  each : w.Each (O.asn w.shared)

variable {O} {w w' : Pool σ τ} {a : Pool.Action τ ι}

theorem Valid.step (valid : O.Valid w) (met : guard w a) (h : P.machine.step w a = some w') :
    O.Valid w' := by
  rcases Program.step_cases h with ⟨t, rfl, entry, rfl⟩ |
    ⟨pid, input, t, s, t', started, rfl, ht, hs, rfl⟩
  · exact ⟨valid.inv,
      Pool.Each.append valid.each (fun _ _ h => h) fun q => O.entry (w := w) q valid.inv met entry⟩
  · obtain ⟨inv, self, new⟩ := O.step valid.inv valid.each met ht hs
    refine ⟨inv, Pool.Each.after self (fun q u other hu => ?_) new⟩
    exact O.interference valid.inv valid.each met ht hs other hu (valid.each q u hu)

/-- Soundness: the outline holds in every state a guarded run reaches. -/
theorem Valid.run {w₀ : Pool σ τ} (run : P.machine.Run guard w₀ w) (init : O.Valid w₀) :
    O.Valid w :=
  run.invariant init fun valid met h => valid.step met h

end Outline

end Parlando.Concurrency
