import Mathlib.Tactic.TypeStar

namespace Parlando

variable {σ ε α β : Type} {x : ExceptT ε (StateM σ) α} {f : α → ExceptT ε (StateM σ) β}
  {s : σ} {stopped stopped' : ε → σ → Prop}

/-- From a state, a program ends in `done` or stops in `stopped`. -/
def Meets (x : ExceptT ε (StateM σ) α) (s : σ) (done : α → σ → Prop) (stopped : ε → σ → Prop) :
    Prop :=
  match x.run.run s with
  | (.ok a, t) => done a t
  | (.error e, t) => stopped e t

namespace Meets

variable {done done' : α → σ → Prop} {after : β → σ → Prop}

theorem returned {a : α} (holds : done a s) :
    Meets (pure a : ExceptT ε (StateM σ) α) s done stopped := holds

theorem thrown {e : ε} (holds : stopped e s) :
    Meets (throw e : ExceptT ε (StateM σ) α) s done stopped := holds

theorem modified {change : σ → σ} {done : PUnit → σ → Prop} (holds : done ⟨⟩ (change s)) :
    Meets (modify change : ExceptT ε (StateM σ) PUnit) s done stopped := holds

theorem seq (first : Meets x s (fun a t => Meets (f a) t after stopped) stopped) :
    Meets (x >>= f) s after stopped := by
  unfold Meets at first ⊢
  rw [ExceptT.run_bind, StateT.run_bind]
  rcases h : x.run.run s with ⟨a | a, t⟩ <;> rw [h] at first <;> exact first

/-- What a program does is weakened at both ends. -/
theorem mono (meets : Meets x s done stopped) (weaker : ∀ a t, done a t → done' a t)
    (weaker' : ∀ e t, stopped e t → stopped' e t) : Meets x s done' stopped' := by
  unfold Meets at meets ⊢
  rcases h : x.run.run s with ⟨a | a, t⟩ <;> rw [h] at meets
  · exact weaker' a t meets
  · exact weaker a t meets

/-- A program that reads the state goes on with what it has read. -/
theorem reads {f : σ → ExceptT ε (StateM σ) β} (rest : Meets (f s) s after stopped) :
    Meets (get >>= f) s after stopped := seq rest

theorem followed {change : σ → σ} {f : PUnit → ExceptT ε (StateM σ) β}
    (rest : Meets (f ⟨⟩) (change s) after stopped) : Meets (modify change >>= f) s after stopped :=
  seq rest

end Meets

end Parlando
