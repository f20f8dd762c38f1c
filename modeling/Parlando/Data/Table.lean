import Mathlib.Data.List.Nodup

namespace Parlando

namespace Table

variable {κ α : Type*} (key : α → κ)

/-- No two rows, which stand in insertion order, share their key. -/
def Unique (rows : List α) : Prop := (rows.map key).Nodup

def find? [DecidableEq κ] (rows : List α) (k : κ) : Option α := rows.find? fun row => key row == k

def update [DecidableEq κ] (rows : List α) (k : κ) (f : α → α) : List α :=
  rows.map fun row => if key row = k then f row else row

variable {key} {rows rows' : List α} {row row' : α}

theorem Unique.eq (unique : Unique key rows) (mem : row ∈ rows) (mem' : row' ∈ rows)
    (same : key row = key row') : row = row' :=
  List.inj_on_of_nodup_map unique mem mem' same

theorem Unique.append (unique : Unique key rows) (fresh : ∀ old ∈ rows, key old ≠ key row) :
    Unique key (rows ++ [row]) := by
  rw [Unique, List.map_append, List.nodup_append]
  refine ⟨unique, List.nodup_singleton _, ?_⟩
  intro a aMem b bMem same
  obtain ⟨old, oldMem, rfl⟩ := List.mem_map.mp aMem
  cases List.mem_singleton.mp bMem
  exact fresh old oldMem same

theorem Unique.of_sublist (unique : Unique key rows) (sub : rows'.Sublist rows) :
    Unique key rows' :=
  List.Nodup.sublist (sub.map key) unique

/-- Of the rows that stand under several keys, one key's rows are found by their key. -/
theorem filter_flatMap_eq {β : Type*} [DecidableEq κ] {g : α → List β} {rowKey : β → Option κ}
    (unique : Unique key rows) (keyed : ∀ row ∈ rows, ∀ x ∈ g row, rowKey x = some (key row))
    (mem : row ∈ rows) : (rows.flatMap g).filter (fun x => rowKey x == some (key row)) = g row := by
  induction rows with
  | nil => exact absurd mem List.not_mem_nil
  | cons first rows ih =>
    rw [Unique, List.map_cons, List.nodup_cons] at unique
    rw [List.flatMap_cons, List.filter_append]
    have others (a b : α) (aMem : a ∈ first :: rows) (differ : key a ≠ key b) :
        (g a).filter (fun x => rowKey x == some (key b)) = [] := by
      rw [List.filter_eq_nil_iff]
      intro x xMem
      simp [keyed a aMem x xMem, differ]
    rcases List.mem_cons.mp mem with rfl | mem
    · have later : (rows.flatMap g).filter (fun x => rowKey x == some (key row)) = [] := by
        rw [List.filter_flatMap, List.flatMap_eq_nil_iff]
        intro b bMem
        exact others b row (List.mem_cons_of_mem _ bMem) fun same =>
          unique.1 (same ▸ List.mem_map_of_mem bMem)
      rw [later, List.append_nil, List.filter_eq_self]
      intro x xMem
      simp [keyed row (List.mem_cons_self ..) x xMem]
    · rw [others first row (List.mem_cons_self ..) fun same =>
        unique.1 (same ▸ List.mem_map_of_mem mem), List.nil_append]
      exact ih unique.2 (fun b bMem => keyed b (List.mem_cons_of_mem _ bMem)) mem

variable [DecidableEq κ] {k : κ} {f : α → α}

theorem find?_mem (found : find? key rows k = some row) : row ∈ rows ∧ key row = k :=
  ⟨List.mem_of_find?_eq_some found, by simpa using List.find?_some found⟩

theorem find?_none (missing : find? key rows k = none) : ∀ row ∈ rows, key row ≠ k := by
  intro row mem same
  have other := List.find?_eq_none.mp missing row mem
  simp [same] at other

theorem Unique.find? (unique : Unique key rows) (mem : row ∈ rows) :
    find? key rows (key row) = some row := by
  cases found : Table.find? key rows (key row) with
  | none => exact absurd rfl (find?_none found row mem)
  | some row' =>
    obtain ⟨mem', same⟩ := find?_mem found
    rw [unique.eq mem mem' same.symm]

theorem find?_update (found : find? key rows k = some row) (keeps : ∀ row, key (f row) = key row) :
    find? key (update key rows k f) k = some (f row) := by
  induction rows with
  | nil => cases found
  | cons first rows ih =>
    rw [find?, List.find?_cons] at found
    change List.find? _ ((if key first = k then f first else first) :: update key rows k f) = _
    rw [List.find?_cons]
    split at found
    · rename_i here
      cases found
      have isKey : key row = k := by simpa using here
      rw [if_pos isKey, keeps, isKey, beq_self_eq_true]
    · rename_i other
      have differs : key first ≠ k := by simpa using other
      rw [if_neg differs, other]
      exact ih found

theorem mem_update (mem : row ∈ update key rows k f) :
    ∃ old ∈ rows, row = if key old = k then f old else old := by
  obtain ⟨old, oldMem, rfl⟩ := List.mem_map.mp mem
  exact ⟨old, oldMem, rfl⟩

theorem map_update {β : Type*} {g : α → β} (keeps : ∀ row, g (f row) = g row) :
    (update key rows k f).map g = rows.map g := by
  rw [update, List.map_map]
  refine List.map_congr_left fun row _ => ?_
  simp only [Function.comp]
  split
  · exact keeps row
  · rfl

/-- An update of one key leaves another column unique, where it leaves it alone. -/
theorem Unique.update {β : Type*} {g : α → β} (unique : Unique g rows)
    (keeps : ∀ row, g (f row) = g row) : Unique g (Table.update key rows k f) := by
  rw [Unique, map_update keeps]
  exact unique

/-- An update that leaves the one row of its key alone changes nothing. -/
theorem Unique.update_self (unique : Unique key rows) (found : Table.find? key rows k = some row)
    (same : f row = row) : Table.update key rows k f = rows := by
  obtain ⟨mem, isKey⟩ := find?_mem found
  calc Table.update key rows k f = rows.map id := by
        refine List.map_congr_left fun other otherMem => ?_
        split
        · rename_i otherKey
          rw [unique.eq otherMem mem (otherKey.trans isKey.symm), same]
          rfl
        · rfl
    _ = rows := List.map_id rows

end Table

end Parlando
