import Mathlib.Data.List.Basic

namespace Parlando

variable {α : Type} {items : List α} {places : List (List Nat)} {place : List Nat} {index : Nat}

/-- Every place of `items` is in one group. The places of a group rise, and so do the first
places of the groups. -/
structure Grouping (items : List α) (places : List (List Nat)) : Prop where
  covers : places.flatten.Perm (List.range items.length)
  occupied : ∀ place ∈ places, place ≠ []
  rising : ∀ place ∈ places, place.Pairwise (· < ·)
  leads : (places.filterMap List.head?).Pairwise (· < ·)

namespace Grouping

/-- The items at the places of a group. -/
def gather (items : List α) (place : List Nat) : List α := place.filterMap (items[·]?)

theorem nil : Grouping ([] : List α) [] := by
  constructor <;> simp

theorem lt_length (grouping : Grouping items places) (mem : place ∈ places) :
    ∀ i ∈ place, i < items.length := by
  intro i here
  have flat : i ∈ places.flatten := List.mem_flatten.mpr ⟨place, mem, here⟩
  exact List.mem_range.mp (grouping.covers.mem_iff.mp flat)

theorem gather_append (bound : ∀ i ∈ place, i < items.length) (item : α) :
    gather (items ++ [item]) place = gather items place := by
  apply List.filterMap_congr
  intro i here
  exact List.getElem?_append_left (bound i here)

theorem map_gather_append (grouping : Grouping items places) (item : α) :
    places.map (gather (items ++ [item])) = places.map (gather items) := by
  apply List.map_congr_left
  intro place mem
  exact gather_append (grouping.lt_length mem) item

theorem gather_last (items : List α) (item : α) :
    gather (items ++ [item]) [items.length] = [item] := by
  simp [gather]

theorem gather_concat (bound : ∀ i ∈ place, i < items.length) (item : α) :
    gather (items ++ [item]) (place ++ [items.length]) = gather items place ++ [item] := by
  rw [gather, List.filterMap_append]
  exact congrArg₂ _ (gather_append bound item) (gather_last items item)

/-- The new item founds a group. -/
theorem push (grouping : Grouping items places) (item : α) :
    Grouping (items ++ [item]) (places ++ [[items.length]]) where
  covers := by
    rw [List.flatten_concat, List.length_append, List.length_singleton, List.range_succ]
    exact grouping.covers.append_right _
  occupied := by
    intro place mem
    rcases List.mem_append.mp mem with old | new
    · exact grouping.occupied place old
    · rw [List.mem_singleton.mp new]
      exact List.cons_ne_nil _ _
  rising := by
    intro place mem
    rcases List.mem_append.mp mem with old | new
    · exact grouping.rising place old
    · rw [List.mem_singleton.mp new]
      exact List.pairwise_singleton _ _
  leads := by
    rw [List.filterMap_append, List.pairwise_append]
    refine ⟨grouping.leads, by simp, ?_⟩
    intro lead old last new
    obtain ⟨place, mem, first⟩ := List.mem_filterMap.mp old
    obtain rfl : last = items.length := by simpa using new
    exact grouping.lt_length mem lead (List.mem_of_mem_head? first)

theorem flatten_set {n : Nat} (found : places[index]? = some place) :
    (places.set index (place ++ [n])).flatten.Perm (places.flatten ++ [n]) := by
  induction places generalizing index with
  | nil => simp at found
  | cons first places ih =>
    cases index with
    | zero =>
      obtain rfl : first = place := by simpa using found
      simp only [List.set_cons_zero, List.flatten_cons, List.append_assoc]
      exact (List.perm_append_comm).append_left _
    | succ index =>
      simp only [List.set_cons_succ, List.flatten_cons, List.append_assoc]
      exact (ih (by simpa using found)).append_left _

theorem filterMap_head?_set {n : Nat} (occupied : place ≠ [])
    (found : places[index]? = some place) :
    (places.set index (place ++ [n])).filterMap List.head? = places.filterMap List.head? := by
  induction places generalizing index with
  | nil => rfl
  | cons first places ih =>
    cases index with
    | zero =>
      obtain rfl : first = place := by simpa using found
      cases first with
      | nil => exact absurd rfl occupied
      | cons lead rest => rfl
    | succ index =>
      have later := @ih index (by simpa using found)
      simp only [List.set_cons_succ, List.filterMap_cons, later]

/-- The new item joins the group at an index. -/
theorem extend (grouping : Grouping items places) (found : places[index]? = some place)
    (item : α) :
    Grouping (items ++ [item]) (places.set index (place ++ [items.length])) where
  covers := by
    rw [List.length_append, List.length_singleton, List.range_succ]
    exact (flatten_set found).trans (grouping.covers.append_right _)
  occupied := by
    intro other mem
    rcases List.mem_or_eq_of_mem_set mem with old | rfl
    · exact grouping.occupied other old
    · simp
  rising := by
    intro other mem
    have here := List.mem_of_getElem? found
    rcases List.mem_or_eq_of_mem_set mem with old | rfl
    · exact grouping.rising other old
    · rw [List.pairwise_append]
      refine ⟨grouping.rising place here, List.pairwise_singleton _ _, ?_⟩
      intro i early last late
      rw [List.mem_singleton.mp late]
      exact grouping.lt_length here i early
  leads := by
    have here := grouping.occupied place (List.mem_of_getElem? found)
    rw [filterMap_head?_set here found]
    exact grouping.leads

theorem map_gather_set (grouping : Grouping items places) (found : places[index]? = some place)
    (item : α) :
    (places.set index (place ++ [items.length])).map (gather (items ++ [item])) =
      (places.map (gather items)).set index (gather items place ++ [item]) := by
  have bound := grouping.lt_length (List.mem_of_getElem? found)
  rw [List.map_set, grouping.map_gather_append, gather_concat bound]

end Grouping

end Parlando
