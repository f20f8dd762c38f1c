import Mathlib.Data.List.Basic
import Mathlib.Order.Lattice

namespace Parlando.Window

variable {times kept : List Int} {width late clock now : Int} {most : Nat}

/-- The instants in the window that ends at an instant. -/
def within (times : List Int) (width stop : Int) : List Int :=
  times.filter fun time => decide (time > stop - width ∧ time ≤ stop)

/-- The instants that a window ending at an instant or later may still hold. -/
def recent (times : List Int) (width now : Int) : List Int :=
  times.filter fun time => decide (time > now - width)

theorem recent_append (times others : List Int) (width now : Int) :
    recent (times ++ others) width now = recent times width now ++ recent others width now :=
  List.filter_append ..

/-- Pruning at two instants is pruning at the later one. -/
theorem recent_recent (times : List Int) (width clock now : Int) :
    recent (recent times width clock) width now = recent times width (max clock now) := by
  unfold recent
  rw [List.filter_filter]
  refine List.filter_congr fun time member => ?_
  rw [Bool.eq_iff_iff, Bool.and_eq_true, decide_eq_true_eq, decide_eq_true_eq, decide_eq_true_eq]
  omega

theorem recent_singleton (inside : now > clock - width) : recent [now] width clock = [now] := by
  simp [recent, inside]

/-- Where nothing lies ahead, what is recent is what the window holds. -/
theorem recent_eq_within (past : ∀ time ∈ times, time ≤ now) :
    recent times width now = within times width now := by
  refine List.filter_congr fun time member => ?_
  rw [Bool.eq_iff_iff, decide_eq_true_eq, decide_eq_true_eq]
  exact ⟨fun inside => ⟨inside, past time member⟩, And.left⟩

/-- What a record pruned of its instants, of which its clock is the latest it was told. -/
structure Pruned (times kept : List Int) (width clock : Int) : Prop where
  past : ∀ time ∈ times, time ≤ clock
  kept : kept = recent times width clock

/-- The record knows what the window holds that ends with the latest instant. -/
theorem Pruned.recent_eq (pruned : Pruned times kept width clock) :
    recent kept width now = within times width (max clock now) := by
  rw [pruned.kept, recent_recent]
  exact recent_eq_within fun time member =>
    Int.le_trans (pruned.past time member) (Int.le_max_left ..)

theorem Pruned.prune (pruned : Pruned times kept width clock) :
    Pruned times (recent kept width now) width (max clock now) where
  past time member := Int.le_trans (pruned.past time member) (Int.le_max_left ..)
  kept := by rw [pruned.kept, recent_recent]

/-- An instant may be recorded late, but not by the whole width of a window. -/
theorem Pruned.push (pruned : Pruned times kept width clock) (positive : 0 < width)
    (later : clock - width < now) :
    Pruned (times ++ [now]) (recent kept width now ++ [now]) width (max clock now) where
  past time member := by
    obtain old | new := List.mem_append.mp member
    · exact Int.le_trans (pruned.past time old) (Int.le_max_left ..)
    · rw [List.mem_singleton.mp new]
      exact Int.le_max_right ..
  kept := by
    have inside : now > max clock now - width := by omega
    rw [recent_append, recent_singleton inside, pruned.kept, recent_recent]

/-- Where instants are recorded late by so much at most, one that finds room in the window of the
latest leaves room in every window that is shorter by as much. -/
theorem Pruned.within_push (pruned : Pruned times kept width clock) (punctual : clock - late ≤ now)
    (slack : 0 ≤ late) (room : (recent kept width now).length < most)
    (bounded : ∀ stop, (within times (width - late) stop).length ≤ most) (stop : Int) :
    (within (times ++ [now]) (width - late) stop).length ≤ most := by
  have split : within (times ++ [now]) (width - late) stop =
      within times (width - late) stop ++ within [now] (width - late) stop := List.filter_append ..
  rw [split, List.length_append]
  rcases Int.lt_or_le stop now with before | after
  · -- A window that ended before does not hold the new instant.
    have outside : within [now] (width - late) stop = [] := by
      simp [within, Int.not_le.mpr before]
    rw [outside, List.length_nil]
    exact bounded stop
  · -- Of the other instants, the window holds only what the record still pruned.
    have fewer : (within times (width - late) stop).length ≤ (recent kept width now).length := by
      rw [pruned.kept, recent_recent]
      refine List.Sublist.length_le (List.monotone_filter_right _ fun time inside => ?_)
      rw [decide_eq_true_eq] at inside ⊢
      omega
    have one : (within [now] (width - late) stop).length ≤ 1 := List.length_filter_le ..
    omega

end Parlando.Window
