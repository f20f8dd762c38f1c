import Mathlib.Tactic.TypeStar

namespace Parlando.Concurrency

/-- A deterministic transition system driven by actions; `none` is a disabled action. -/
structure Machine (σ α : Type*) where
  step : σ → α → Option σ

namespace Machine

variable {σ α : Type*} (m : Machine σ α)

/-- Runs a list of actions from a state. -/
def exec (s : σ) : List α → Option σ
  | [] => some s
  | a :: as => (m.step s a).bind fun t => exec t as

def restrict (check : σ → α → Bool) : Machine σ α where
  step s a := if check s a then m.step s a else none

/-- The states reached by steps that all meet the guard. -/
inductive Run (guard : σ → α → Prop) (s : σ) : σ → Prop where
  | refl : Run guard s s
  | tail {t u : σ} {a : α} (run : Run guard s t) (met : guard t a)
      (step : m.step t a = some u) : Run guard s u

/-- The guard every action meets. -/
def unguarded : σ → α → Prop := fun _ _ => True

variable {m} {guard : σ → α → Prop} {s t u : σ}

@[simp] theorem exec_singleton {a : α} : m.exec s [a] = m.step s a := by
  simp [exec]

/-- A property that holds at the start and survives every guarded step holds in every state reached. -/
@[elab_as_elim] theorem Run.invariant {inv : σ → Prop} (run : m.Run guard s t) (init : inv s)
    (preserved : ∀ {t u a}, inv t → guard t a → m.step t a = some u → inv u) : inv t := by
  induction run with
  | refl => exact init
  | tail _ met step ih => exact preserved ih met step

/-- The rule again, where the step may use that its own start was reached. -/
@[elab_as_elim] theorem Run.invariant_of_reached {inv : σ → Prop} (run : m.Run guard s t) (init : inv s)
    (preserved : ∀ {t u a}, m.Run guard s t → inv t → guard t a → m.step t a = some u → inv u) :
    inv t := by
  induction run with
  | refl => exact init
  | tail reached met step ih => exact preserved reached ih met step

/-- Weakening the guard keeps a run. -/
theorem Run.mono {guard' : σ → α → Prop} (run : m.Run guard s t)
    (weaker : ∀ s a, guard s a → guard' s a) : m.Run guard' s t := by
  induction run with
  | refl => exact .refl
  | tail _ met step ih => exact .tail ih (weaker _ _ met) step

theorem Run.head {a : α} (met : guard s a) (step : m.step s a = some t)
    (run : m.Run guard t u) : m.Run guard s u := by
  induction run with
  | refl => exact .tail .refl met step
  | tail _ met' step' ih => exact .tail ih met' step'

theorem Run.trans (first : m.Run guard s t) (second : m.Run guard t u) : m.Run guard s u := by
  induction second with
  | refl => exact first
  | tail _ met step ih => exact .tail ih met step

/-- What every state reached has may be assumed at each step. -/
theorem Run.and_invariant {inv : σ → Prop} (run : m.Run guard s t)
    (holds : ∀ {u}, m.Run guard s u → inv u) : m.Run (fun u a => guard u a ∧ inv u) s t := by
  induction run with
  | refl => exact .refl
  | tail reached met step ih => exact .tail ih ⟨met, holds reached⟩ step

/-- An execution extends a run when the guard allows each of its actions anywhere. -/
theorem Run.exec {as : List α} (run : m.Run guard s t) (met : ∀ a ∈ as, ∀ s, guard s a)
    (h : m.exec t as = some u) : m.Run guard s u := by
  induction as generalizing t with
  | nil =>
    cases Option.some.inj h
    exact run
  | cons a as ih =>
    obtain ⟨t', ht, h⟩ := Option.bind_eq_some_iff.mp h
    exact ih (run.tail (met a (.head as) t) ht) (fun b mem => met b (.tail a mem)) h

/-- An execution of the restricted machine is a run under any guard the check implies. -/
theorem Run.of_exec {check : σ → α → Bool} {as : List α}
    (implied : ∀ s a, check s a = true → guard s a)
    (h : (m.restrict check).exec s as = some t) : m.Run guard s t := by
  induction as generalizing s with
  | nil =>
    cases Option.some.inj h
    exact .refl
  | cons a as ih =>
    obtain ⟨s', hs, ht⟩ := Option.bind_eq_some_iff.mp h
    change (if check s a then m.step s a else none) = some s' at hs
    split at hs
    · rename_i met
      exact .head (implied s a met) hs (ih ht)
    · cases hs

/-- A plain execution is a run under the guard every action meets. -/
theorem Run.of_exec_unguarded {as : List α} (h : m.exec s as = some t) :
    m.Run unguarded s t := by
  induction as generalizing s with
  | nil =>
    cases Option.some.inj h
    exact .refl
  | cons a as ih =>
    obtain ⟨s', hs, ht⟩ := Option.bind_eq_some_iff.mp h
    exact .head trivial hs (ih ht)

theorem exec_append (as bs : List α) : m.exec s (as ++ bs) = (m.exec s as).bind (m.exec · bs) := by
  induction as generalizing s with
  | nil => rfl
  | cons a as ih =>
    rw [List.cons_append, exec, exec, Option.bind_assoc]
    exact Option.bind_congr fun t _ => ih

/-- A run is an execution of the actions it takes. -/
theorem Run.exists_exec (run : m.Run guard s t) : ∃ as, m.exec s as = some t := by
  induction run with
  | refl => exact ⟨[], rfl⟩
  | tail _ _ step ih =>
    obtain ⟨as, ran⟩ := ih
    exact ⟨as ++ [_], by rw [exec_append, ran, Option.bind_some, exec_singleton, step]⟩

/-- Where every state with the invariant leads to the goal or closer to it, each leads to the goal. -/
theorem Run.of_variant {inv goal : σ → Prop} (measure : σ → Nat)
    (closer : ∀ s, inv s → ¬goal s → ∃ t, m.Run guard s t ∧ inv t ∧ measure t < measure s)
    (start : inv s) : ∃ t, m.Run guard s t ∧ inv t ∧ goal t := by
  induction left : measure s using Nat.strongRecOn generalizing s with
  | ind n ih =>
    by_cases there : goal s
    · exact ⟨s, .refl, start, there⟩
    · obtain ⟨t, first, holds, less⟩ := closer s start there
      obtain ⟨u, second, holds, there⟩ := ih (measure t) (left ▸ less) holds rfl
      exact ⟨u, first.trans second, holds, there⟩

/-- Where every allowed step comes closer to a goal that no allowed step leaves, each execution has
reached the goal or is short. -/
theorem exec_variant {inv goal : σ → Prop} {allowed : α → Prop} (measure : σ → Nat)
    (closer : ∀ {s a t}, inv s → allowed a → m.step s a = some t →
      goal t ∨ inv t ∧ measure t < measure s)
    (stays : ∀ {s a t}, goal s → allowed a → m.step s a = some t → goal t)
    {as : List α} (all : ∀ a ∈ as, allowed a) (start : inv s) (ran : m.exec s as = some t) :
    goal t ∨ inv t ∧ as.length + measure t ≤ measure s := by
  have later {s t : σ} {as : List α} (all : ∀ a ∈ as, allowed a) (there : goal s)
      (ran : m.exec s as = some t) : goal t := by
    induction as generalizing s with
    | nil =>
      cases ran
      exact there
    | cons a as ih =>
      obtain ⟨u, step, ran⟩ := Option.bind_eq_some_iff.mp ran
      exact ih (fun b mem => all b (.tail a mem)) (stays there (all a (.head as)) step) ran
  induction as generalizing s with
  | nil =>
    cases ran
    exact .inr ⟨start, by simp⟩
  | cons a as ih =>
    obtain ⟨u, step, ran⟩ := Option.bind_eq_some_iff.mp ran
    have rest : ∀ b ∈ as, allowed b := fun b mem => all b (.tail a mem)
    obtain there | ⟨holds, less⟩ := closer start (all a (.head as)) step
    · exact .inl (later rest there ran)
    · obtain reached | ⟨kept, short⟩ := ih rest holds ran
      · exact .inl reached
      · refine .inr ⟨kept, ?_⟩
        rw [List.length_cons]
        omega

end Machine

end Parlando.Concurrency
