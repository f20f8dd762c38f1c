import Mathlib.Data.List.AList

namespace Parlando

/-- A finite map; the iteration order of its entries carries no meaning. -/
abbrev Map (κ : Type*) (ν : Type*) := AList fun _ : κ => ν

namespace Map

variable {κ ν : Type*}

/-- The values of the map, in its iteration order. -/
def values (m : Map κ ν) : List ν := m.entries.map Sigma.snd

@[simp] theorem values_empty : (∅ : Map κ ν).values = [] := rfl

@[simp] theorem values_singleton (k : κ) (x : ν) :
    values (AList.singleton k x : Map κ ν) = [x] := rfl

variable [DecidableEq κ] {m : Map κ ν} {k : κ} {v x : ν} {f : ν → ν}

def modify (m : Map κ ν) (k : κ) (f : ν → ν) : Map κ ν :=
  match m.lookup k with
  | some v => m.insert k (f v)
  | none => m

theorem mem_values : v ∈ m.values ↔ ∃ k, m.lookup k = some v := by
  simp only [values, List.mem_map, Sigma.exists, ← Option.mem_def, AList.mem_lookup_iff]
  constructor
  · rintro ⟨k, u, mem, rfl⟩
    exact ⟨k, mem⟩
  · rintro ⟨k, mem⟩
    exact ⟨k, v, mem, rfl⟩

theorem lookup_mem_values (h : m.lookup k = some v) : v ∈ m.values :=
  mem_values.mpr ⟨k, h⟩

theorem lookup_singleton (k k' : κ) (x : ν) :
    (AList.singleton k x : Map κ ν).lookup k' = if k' = k then some x else none := by
  split
  · rename_i same
    subst same
    exact List.dlookup_cons_eq [] _ _
  · rename_i other
    exact List.dlookup_cons_ne [] (⟨k, x⟩ : Sigma fun _ : κ => ν) other

theorem lookup_insert_eq (m : Map κ ν) (k k' : κ) (x : ν) :
    (AList.insert k x m).lookup k' = if k' = k then some x else m.lookup k' := by
  split
  · rename_i same
    subst same
    exact AList.lookup_insert m
  · rename_i other
    exact AList.lookup_insert_ne other

theorem lookup_erase_eq (m : Map κ ν) (k k' : κ) :
    (AList.erase k m).lookup k' = if k' = k then none else m.lookup k' := by
  split
  · rename_i same
    subst same
    exact AList.lookup_erase k' m
  · rename_i other
    exact AList.lookup_erase_ne other

theorem lookup_modify (m : Map κ ν) (k k' : κ) (f : ν → ν) :
    (m.modify k f).lookup k' = if k' = k then (m.lookup k).map f else m.lookup k' := by
  unfold modify
  split
  · rename_i v found
    rw [lookup_insert_eq, found]
    rfl
  · rename_i missing
    split
    · rename_i same
      subst same
      rw [missing]
      rfl
    · rfl

def retain (m : Map κ ν) (keep : κ → Bool) : Map κ ν :=
  ⟨m.entries.filter fun entry => keep entry.1, m.nodupKeys.sublist List.filter_sublist⟩

theorem lookup_retain (m : Map κ ν) (keep : κ → Bool) (k : κ) :
    (m.retain keep).lookup k = if keep k then m.lookup k else none := by
  suffices ∀ entries : List (Sigma fun _ : κ => ν),
      List.dlookup k (entries.filter fun entry => keep entry.1) =
        if keep k then List.dlookup k entries else none from this m.entries
  intro entries
  induction entries with
  | nil => simp
  | cons entry entries ih =>
    obtain ⟨key, value⟩ := entry
    by_cases here : key = k
    · subst here
      cases kept : keep key <;> simp [kept, ih]
    · have skip := List.dlookup_cons_ne entries ⟨key, value⟩ fun e => here e.symm
      rw [List.filter_cons, skip]
      cases kept : keep key with
      | true => exact (List.dlookup_cons_ne _ ⟨key, value⟩ fun e => here e.symm).trans ih
      | false => exact ih

/-- Renames the keys and drops the entries of those that get no new name. -/
def filterMapKeys {κ' : Type*} [DecidableEq κ'] (f : κ → Option κ') (m : Map κ ν) : Map κ' ν :=
  m.entries.foldr (fun entry renamed =>
    match f entry.1 with
    | some key => AList.insert key entry.2 renamed
    | none => renamed) ∅

theorem lookup_filterMapKeys {κ' : Type*} [DecidableEq κ'] {f : κ → Option κ'} {key' : κ'}
    (only : ∀ other, f other = some key' ↔ other = k) (m : Map κ ν) :
    (m.filterMapKeys f).lookup key' = m.lookup k := by
  suffices ∀ entries : List (Sigma fun _ : κ => ν),
      AList.lookup key' (entries.foldr (fun entry renamed =>
        match f entry.1 with
        | some key => AList.insert key entry.2 renamed
        | none => renamed) (∅ : Map κ' ν)) = entries.dlookup k from
    this m.entries
  intro entries
  induction entries with
  | nil => rfl
  | cons entry entries ih =>
    obtain ⟨other, x⟩ := entry
    rw [List.foldr_cons]
    cases renamed : f other with
    | some key =>
      simp only [lookup_insert_eq, ih]
      split
      · rename_i same
        cases (only other).mp (renamed.trans (congrArg some same.symm))
        rw [List.dlookup_cons_eq]
      · rename_i differ
        rw [List.dlookup_cons_ne]
        rintro rfl
        exact differ (Option.some.inj (((only k).mpr rfl).symm.trans renamed))
    | none =>
      simp only [ih]
      rw [List.dlookup_cons_ne]
      rintro rfl
      cases renamed.symm.trans ((only k).mpr rfl)

/-- Inserting entries under renamed keys: the new ones come before the old. -/
theorem lookup_foldl_insert {κ' : Type*} [DecidableEq κ'] {f : κ → κ'}
    (injective : Function.Injective f) {entries : List (Sigma fun _ : κ => ν)}
    (nodup : entries.NodupKeys) (m : Map κ' ν) (k : κ) :
    AList.lookup (f k) (entries.foldl (fun m entry => AList.insert (f entry.1) entry.2 m) m) =
      (entries.dlookup k).or (m.lookup (f k)) := by
  induction entries generalizing m with
  | nil => rfl
  | cons entry entries ih =>
    obtain ⟨key, x⟩ := entry
    rw [List.nodupKeys_cons] at nodup
    rw [List.foldl_cons, ih nodup.2, lookup_insert_eq]
    by_cases same : k = key
    · subst same
      rw [List.dlookup_eq_none.mpr nodup.1, List.dlookup_cons_eq, if_pos rfl]
      rfl
    · rw [List.dlookup_cons_ne entries ⟨key, x⟩ same, if_neg fun images => same (injective images)]

theorem lookup_foldl_erase {κ' : Type*} [DecidableEq κ'] {f : κ → κ'}
    (injective : Function.Injective f) (keys : List κ) (m : Map κ' ν) (k : κ) :
    AList.lookup (f k) (keys.foldl (fun m key => AList.erase (f key) m) m) =
      if k ∈ keys then none else m.lookup (f k) := by
  induction keys generalizing m with
  | nil => simp
  | cons key keys ih =>
    rw [List.foldl_cons, ih, lookup_erase_eq]
    by_cases same : k = key
    · simp [same]
    · simp [same, injective.eq_iff]

theorem values_erase_of_missing (missing : m.lookup k = none) :
    values (AList.erase k m) = m.values := by
  have absent : k ∉ m.entries.keys := by
    rw [← List.dlookup_eq_none]
    exact missing
  change (m.entries.kerase k).map Sigma.snd = m.values
  rw [List.kerase_of_notMem_keys absent]
  rfl

theorem values_insert (k : κ) (x : ν) (m : Map κ ν) :
    values (AList.insert k x m) = x :: values (AList.erase k m) := rfl

/-- A value that is there is one of the values, beside those of the other keys. -/
theorem values_perm (found : m.lookup k = some v) :
    m.values.Perm (v :: values (AList.erase k m)) := by
  have mem : (⟨k, v⟩ : Sigma fun _ : κ => ν) ∈ m.entries := AList.mem_lookup_iff.mp found
  obtain ⟨u, before, after, -, split, rest⟩ :=
    List.exists_of_kerase (List.mem_keys_of_mem mem)
  have same : u = v := by
    have here : (⟨k, u⟩ : Sigma fun _ : κ => ν) ∈ m.entries := by simp [split]
    exact Option.some.inj ((AList.mem_lookup_iff.mpr here).symm.trans found)
  subst same
  change (m.entries.map Sigma.snd).Perm (u :: (m.entries.kerase k).map Sigma.snd)
  rw [rest, split, List.map_append, List.map_append, List.map_cons]
  exact List.perm_middle

theorem countP_values (p : ν → Bool) (found : m.lookup k = some v) :
    m.values.countP p = (values (AList.erase k m)).countP p + if p v then 1 else 0 := by
  rw [(values_perm found).countP_eq, List.countP_cons]

theorem countP_insert_fresh (p : ν → Bool) (fresh : m.lookup k = none) :
    (values (AList.insert k x m)).countP p = m.values.countP p + if p x then 1 else 0 := by
  rw [values_insert, List.countP_cons, values_erase_of_missing fresh]

theorem countP_erase_le (p : ν → Bool) (m : Map κ ν) (k : κ) :
    (values (AList.erase k m)).countP p ≤ m.values.countP p :=
  ((List.kerase_sublist k m.entries).map _).countP_le

theorem countP_modify (p : ν → Bool) (same : ∀ v, p (f v) = p v) :
    (m.modify k f).values.countP p = m.values.countP p := by
  unfold modify
  split
  · rename_i v found
    rw [values_insert, List.countP_cons, countP_values p found, same]
  · rfl

end Map

end Parlando
