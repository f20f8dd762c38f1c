import Mathlib.Data.List.Nodup
import Mathlib.Logic.Function.Basic

namespace Parlando.Concurrency

variable {κ : Type*} {p : Nat} {k : κ}

/-- Keys that tasks claim in order to do one thing at most once for each key. -/
structure Claims (κ : Type*) where
  claimed : List κ
  /-- The keys whose work has been done. -/
  done : List κ
  /-- The key a task holds while it works. -/
  hold : Nat → Option κ

namespace Claims

/-- A claimed key is done for ever or held by exactly one task, which has not done its work. -/
structure Exclusive (c : Claims κ) : Prop where
  nodup : c.claimed.Nodup
  once : c.done.Nodup
  kept : ∀ k ∈ c.done, k ∈ c.claimed
  held : ∀ p k, c.hold p = some k → k ∈ c.claimed ∧ k ∉ c.done
  single : ∀ p q k, c.hold p = some k → c.hold q = some k → p = q
  cause : ∀ k ∈ c.claimed, k ∈ c.done ∨ ∃ p, c.hold p = some k

/-- A task that holds nothing claims a key. -/
def claim (c : Claims κ) (p : Nat) (k : κ) : Claims κ :=
  { c with claimed := c.claimed ++ [k], hold := Function.update c.hold p (some k) }

def finish (c : Claims κ) (p : Nat) (k : κ) : Claims κ :=
  { c with done := c.done ++ [k], hold := Function.update c.hold p none }

def release [DecidableEq κ] (c : Claims κ) (p : Nat) (k : κ) : Claims κ :=
  { c with claimed := c.claimed.erase k, hold := Function.update c.hold p none }

namespace Exclusive

variable {c : Claims κ}

theorem claim (exclusive : c.Exclusive) (free : k ∉ c.claimed) (idle : c.hold p = none) :
    (c.claim p k).Exclusive where
  nodup := List.nodup_append.mpr ⟨exclusive.nodup, List.nodup_singleton k, fun a ha b hb => by
    rintro rfl
    exact free (List.mem_singleton.mp hb ▸ ha)⟩
  once := exclusive.once
  kept l mem := List.mem_append_left _ (exclusive.kept l mem)
  held q l holds := by
    by_cases same : q = p
    · subst same
      cases (Function.update_self ..).symm.trans holds
      exact ⟨List.mem_append_right _ (.head _), fun done => free (exclusive.kept k done)⟩
    · obtain ⟨claimed, undone⟩ := exclusive.held q l ((Function.update_of_ne same ..).symm.trans holds)
      exact ⟨List.mem_append_left _ claimed, undone⟩
  single q r l hq hr := by
    have elsewhere : ∀ q', q' ≠ p → (c.claim p k).hold q' = some k → False := fun q' other holds =>
      free (exclusive.held q' k ((Function.update_of_ne other ..).symm.trans holds)).1
    have here : (c.claim p k).hold p = some k := Function.update_self ..
    by_cases qp : q = p <;> by_cases rp : r = p
    · exact qp.trans rp.symm
    · subst qp
      cases here.symm.trans hq
      exact (elsewhere r rp hr).elim
    · subst rp
      cases here.symm.trans hr
      exact (elsewhere q qp hq).elim
    · exact exclusive.single q r l ((Function.update_of_ne qp ..).symm.trans hq)
        ((Function.update_of_ne rp ..).symm.trans hr)
  cause l mem := by
    rcases List.mem_append.mp mem with old | new
    · rcases exclusive.cause l old with done | ⟨q, holds⟩
      · exact .inl done
      · have other : q ≠ p := by
          rintro rfl
          rw [idle] at holds
          cases holds
        exact .inr ⟨q, (Function.update_of_ne other ..).trans holds⟩
    · cases List.mem_singleton.mp new
      exact .inr ⟨p, Function.update_self ..⟩

/-- What a task that gives up its key leaves to the others. -/
theorem hold_others {q : Nat} {l : κ} (holds : Function.update c.hold p none q = some l) :
    q ≠ p ∧ c.hold q = some l := by
  have other : q ≠ p := by
    rintro rfl
    rw [Function.update_self] at holds
    cases holds
  exact ⟨other, (Function.update_of_ne other ..).symm.trans holds⟩

theorem finish (exclusive : c.Exclusive) (holds : c.hold p = some k) :
    (c.finish p k).Exclusive where
  nodup := exclusive.nodup
  once := List.nodup_append.mpr ⟨exclusive.once, List.nodup_singleton k, fun a ha b hb => by
    rintro rfl
    exact (exclusive.held p k holds).2 (List.mem_singleton.mp hb ▸ ha)⟩
  kept l mem := by
    rcases List.mem_append.mp mem with old | new
    · exact exclusive.kept l old
    · cases List.mem_singleton.mp new
      exact (exclusive.held p k holds).1
  held q l hq := by
    obtain ⟨other, hq⟩ := hold_others hq
    obtain ⟨claimed, undone⟩ := exclusive.held q l hq
    refine ⟨claimed, fun mem => ?_⟩
    rcases List.mem_append.mp mem with old | new
    · exact undone old
    · cases List.mem_singleton.mp new
      exact other (exclusive.single q p k hq holds)
  single q r l hq hr := exclusive.single q r l (hold_others hq).2 (hold_others hr).2
  cause l mem := by
    rcases exclusive.cause l mem with done | ⟨q, hq⟩
    · exact .inl (List.mem_append_left _ done)
    · by_cases same : q = p
      · subst same
        cases holds.symm.trans hq
        exact .inl (List.mem_append_right _ (.head _))
      · exact .inr ⟨q, (Function.update_of_ne same ..).trans hq⟩

theorem release [DecidableEq κ] (exclusive : c.Exclusive) (holds : c.hold p = some k) :
    (c.release p k).Exclusive where
  nodup := exclusive.nodup.erase k
  once := exclusive.once
  kept l mem := by
    refine (List.mem_erase_of_ne fun same => ?_).mpr (exclusive.kept l mem)
    exact (exclusive.held p k holds).2 (same ▸ mem)
  held q l hq := by
    obtain ⟨other, hq⟩ := hold_others hq
    obtain ⟨claimed, undone⟩ := exclusive.held q l hq
    refine ⟨(List.mem_erase_of_ne fun same => ?_).mpr claimed, undone⟩
    exact other (exclusive.single q p k (same ▸ hq) holds)
  single q r l hq hr := exclusive.single q r l (hold_others hq).2 (hold_others hr).2
  cause l mem := by
    obtain ⟨other, claimed⟩ := (exclusive.nodup.mem_erase_iff).mp mem
    rcases exclusive.cause l claimed with done | ⟨q, hq⟩
    · exact .inl done
    · refine .inr ⟨q, (Function.update_of_ne ?_ ..).trans hq⟩
      rintro rfl
      exact other (Option.some.inj (hq.symm.trans holds))

end Exclusive

end Claims

end Parlando.Concurrency
