import Mathlib.Data.List.Forall2

namespace Parlando

def orError {ε α : Type} (value : Option α) (error : ε) : Except ε α :=
  match value with
  | some value => .ok value
  | none => .error error

theorem orError_ok {ε α : Type} {value : Option α} {error : ε} {a : α}
    (h : orError value error = .ok a) : value = some a := by
  cases value with
  | none => cases h
  | some a' =>
    cases h
    rfl

namespace Except

variable {ε α β : Type} {f : α → Except ε β} {xs : List α} {ys : List β}

theorem of_bind_ok {x : Except ε α} {b : β} (h : (x >>= f) = .ok b) :
    ∃ a, x = .ok a ∧ f a = .ok b := by
  cases x with
  | error e => cases h
  | ok a => exact ⟨a, rfl, h⟩

theorem of_bind_error {x : Except ε α} {e : ε} (h : (x >>= f) = .error e) :
    x = .error e ∨ ∃ a, x = .ok a ∧ f a = .error e := by
  cases x with
  | error e' =>
    cases h
    exact .inl rfl
  | ok a => exact .inr ⟨a, rfl, h⟩

theorem of_mapError_error {ε' : Type} {g : ε' → ε} {x : Except ε' α} {e : ε}
    (h : x.mapError g = .error e) : ∃ e', e = g e' := by
  cases x with
  | error e' =>
    cases h
    exact ⟨e', rfl⟩
  | ok a => cases h

theorem exists_ok {x : Except ε α} (succeeds : x.toBool = true) : ∃ a, x = .ok a := by
  cases x with
  | error _ => cases succeeds
  | ok a => exact ⟨a, rfl⟩

@[simp] theorem throw_ne_ok {e : ε} {a : α} : (throw e : Except ε α) ≠ .ok a :=
  fun h => by cases h

/-- A block that gets past a check has found nothing there. -/
theorem of_check_ok {c : Prop} [Decidable c] {e : ε} {go : α → Except ε β} {x : Except ε β} {b : β}
    (h : (if c then throw e >>= go else x) = .ok b) : ¬c ∧ x = .ok b := by
  split at h
  · cases h
  · rename_i nothing
    exact ⟨nothing, h⟩

/-- A block that fails at a check has found something there, or fails behind it. -/
theorem of_check_error {c : Prop} [Decidable c] {e e' : ε} {go : α → Except ε β} {x : Except ε β}
    (h : (if c then throw e >>= go else x) = .error e') : e' = e ∨ x = .error e' := by
  split at h
  · cases h
    exact .inl rfl
  · exact .inr h

/-- A check of every element that succeeds has succeeded on each. -/
theorem of_forM_ok {g : α → Except ε Unit} (h : xs.forM g = .ok ⟨⟩) :
    ∀ x ∈ xs, g x = .ok ⟨⟩ := by
  induction xs with
  | nil => exact fun _ mem => absurd mem List.not_mem_nil
  | cons first xs ih =>
    change (g first >>= fun _ => xs.forM g) = .ok ⟨⟩ at h
    obtain ⟨⟨⟩, head, h⟩ := of_bind_ok h
    intro x mem
    rcases List.mem_cons.mp mem with rfl | mem
    · exact head
    · exact ih h x mem

/-- A traversal fails with the error of one of its elements. -/
theorem of_mapM_error {e : ε} (h : xs.mapM f = .error e) : ∃ x ∈ xs, f x = .error e := by
  induction xs with
  | nil => cases h
  | cons first xs ih =>
    rw [List.mapM_cons] at h
    cases head : f first with
    | error e' =>
      rw [head] at h
      cases h
      exact ⟨first, .head _, head⟩
    | ok y =>
      rw [head] at h
      cases tail : xs.mapM f with
      | error e' =>
        rw [tail] at h
        cases h
        obtain ⟨x, mem, failed⟩ := ih tail
        exact ⟨x, .tail _ mem, failed⟩
      | ok ys =>
        rw [tail] at h
        cases h

/-- A traversal that succeeds has an image for every element. -/
theorem mapM_image (h : xs.mapM f = .ok ys) {x : α} (mem : x ∈ xs) : ∃ y ∈ ys, f x = .ok y := by
  induction xs generalizing ys with
  | nil => cases mem
  | cons first xs ih =>
    rw [List.mapM_cons] at h
    obtain ⟨y, head, h⟩ := of_bind_ok h
    obtain ⟨rest, tail, h⟩ := of_bind_ok h
    cases h
    rcases List.mem_cons.mp mem with rfl | mem
    · exact ⟨y, List.mem_cons_self .., head⟩
    · obtain ⟨z, zMem, image⟩ := ih tail mem
      exact ⟨z, List.mem_cons_of_mem _ zMem, image⟩

/-- Every result of a traversal is the image of an element. -/
theorem mapM_preimage (h : xs.mapM f = .ok ys) {y : β} (mem : y ∈ ys) :
    ∃ x ∈ xs, f x = .ok y := by
  induction xs generalizing ys with
  | nil =>
    cases h
    cases mem
  | cons first xs ih =>
    rw [List.mapM_cons] at h
    obtain ⟨head, made, h⟩ := of_bind_ok h
    obtain ⟨rest, tail, h⟩ := of_bind_ok h
    cases h
    rcases List.mem_cons.mp mem with rfl | mem
    · exact ⟨first, List.mem_cons_self, made⟩
    · obtain ⟨x, xMem, image⟩ := ih tail mem
      exact ⟨x, List.mem_cons_of_mem _ xMem, image⟩

/-- A traversal that succeeds pairs every element with its image. -/
theorem forall₂_of_mapM_ok (h : xs.mapM f = .ok ys) :
    List.Forall₂ (fun x y => f x = .ok y) xs ys := by
  induction xs generalizing ys with
  | nil =>
    cases h
    exact .nil
  | cons x xs ih =>
    rw [List.mapM_cons] at h
    obtain ⟨y, head, h⟩ := of_bind_ok h
    obtain ⟨rest, tail, h⟩ := of_bind_ok h
    cases h
    exact .cons head (ih tail)

theorem map_of_mapM_ok {γ : Type} {g : β → γ} {g' : α → γ} (h : xs.mapM f = .ok ys)
    (images : ∀ x y, f x = .ok y → g y = g' x) : ys.map g = xs.map g' := by
  have each := forall₂_of_mapM_ok h
  clear h
  induction each with
  | nil => rfl
  | cons head _ ih => rw [List.map_cons, List.map_cons, images _ _ head, ih]

/-- A traversal succeeds where the function does on every element. -/
theorem mapM_total (total : ∀ x ∈ xs, ∃ y, f x = .ok y) : ∃ ys, xs.mapM f = .ok ys := by
  induction xs with
  | nil => exact ⟨[], rfl⟩
  | cons x xs ih =>
    obtain ⟨y, head⟩ := total x (List.mem_cons_self ..)
    obtain ⟨ys, tail⟩ := ih fun z mem => total z (List.mem_cons_of_mem _ mem)
    exact ⟨y :: ys, by rw [List.mapM_cons, head, tail]; rfl⟩

end Except

end Parlando
