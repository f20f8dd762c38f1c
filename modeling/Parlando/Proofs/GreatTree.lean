import Parlando.GreatTree
import Mathlib.Data.List.Nodup
import Mathlib.Data.List.Perm.Subperm
import Mathlib.Logic.Function.Basic

namespace Parlando.GreatTree

open Concurrency

variable {s t : GreatTreeState} {limb other : LimbId} {root : RootId}

theorem mem_all (limb : LimbId) : limb ∈ LimbId.all.toList := by
  cases limb <;> decide

/-- Each root is paired with one limb, which a search finds. -/
theorem limbForRoot_rootOf (paired : Function.Bijective (rootOf s)) (limb : LimbId) :
    limbForRoot s (rootOf s limb) = some limb := by
  unfold limbForRoot
  cases found : LimbId.all.toList.find? fun other => s.bijection[other.index] == rootOf s limb with
  | none =>
    exact absurd (List.find?_eq_none.mp found limb (mem_all limb)) (by simp [rootOf])
  | some other =>
    have same := List.find?_some found
    rw [beq_iff_eq] at same
    rw [paired.1 same]

structure Inv (s : GreatTreeState) : Prop where
  paired : Function.Bijective (rootOf s)
  sunNodup : s.sunHolds.Nodup
  sunShort : s.sunHolds.length ≤ 3
  waterNodup : s.waterHolds.Nodup
  warmed : ∀ limb, rootOf s limb ∈ s.waterHolds → limb ∈ s.sunHolds
  latch : ∀ limb, water s limb = true ↔ rootOf s limb ∈ s.waterHolds

/-- The held roots are paired with held limbs. -/
theorem Inv.waterHolds_subset (inv : Inv s) : s.waterHolds ⊆ s.sunHolds.map (rootOf s) := by
  intro root held
  obtain ⟨limb, rfl⟩ := inv.paired.2 root
  exact List.mem_map_of_mem (inv.warmed limb held)

theorem Inv.waterShort (inv : Inv s) : s.waterHolds.length ≤ 3 := by
  have fits := (List.subperm_of_subset inv.waterNodup inv.waterHolds_subset).length_le
  rw [List.length_map] at fits
  exact fits.trans inv.sunShort

/-- While a thawed root is closed, there is room for it. -/
theorem Inv.room (inv : Inv s) (warm : limb ∈ s.sunHolds) (closed : rootOf s limb ∉ s.waterHolds) :
    s.waterHolds.length < 3 := by
  have subset : rootOf s limb :: s.waterHolds ⊆ s.sunHolds.map (rootOf s) :=
    List.cons_subset.mpr ⟨List.mem_map_of_mem warm, inv.waterHolds_subset⟩
  have fits := (List.subperm_of_subset (inv.waterNodup.cons closed) subset).length_le
  rw [List.length_map, List.length_cons] at fits
  have := inv.sunShort
  omega

theorem Inv.thawed_rootOf (inv : Inv s) (limb : LimbId) :
    thawed s (rootOf s limb) = some (sun s limb) := by
  unfold thawed
  rw [limbForRoot_rootOf inv.paired, Option.map_some]

theorem sun_iff : sun s limb = true ↔ limb ∈ s.sunHolds := List.contains_iff_mem

theorem Inv.evictRoot (inv : Inv s) (warm : limb ∈ s.sunHolds)
    (closed : rootOf s limb ∉ s.waterHolds) : evictRoot s = some s := by
  have room := inv.room warm closed
  unfold GreatTree.evictRoot
  split
  · rw [if_neg (by omega)]
  · rfl

theorem water_forceClosePairedRoot (s : GreatTreeState) (limb other : LimbId) :
    water (forceClosePairedRoot s limb) other = if other = limb then false else water s other :=
  getElem_set ..

theorem mem_forceClosePairedRoot (s : GreatTreeState) (limb : LimbId) :
    root ∈ (forceClosePairedRoot s limb).waterHolds ↔ root ∈ s.waterHolds ∧ root ≠ rootOf s limb := by
  unfold forceClosePairedRoot
  rw [List.mem_filter, bne_iff_ne]
  rfl

/-- A limb may lose its sun when it loses its water too. -/
theorem Inv.release (inv : Inv s) (limb : LimbId) {sunHolds : List LimbId} (nodup : sunHolds.Nodup)
    (short : sunHolds.length ≤ 3) (kept : ∀ other ∈ s.sunHolds, other ≠ limb → other ∈ sunHolds) :
    Inv (forceClosePairedRoot { s with sunHolds } limb) where
  paired := inv.paired
  sunNodup := nodup
  sunShort := short
  waterNodup := inv.waterNodup.filter _
  warmed other held := by
    obtain ⟨held, apart⟩ := (mem_forceClosePairedRoot ..).mp held
    exact kept other (inv.warmed other held) fun same => apart (congrArg (rootOf s) same)
  latch other := by
    rw [water_forceClosePairedRoot, mem_forceClosePairedRoot]
    change _ ↔ rootOf s other ∈ s.waterHolds ∧ rootOf s other ≠ rootOf s limb
    rw [inv.paired.1.ne_iff, ← inv.latch]
    by_cases same : other = limb
    · simp [same]
    · rw [if_neg same]
      exact (and_iff_left same).symm

/-- What a limb shows of itself and of its root. -/
structure Alike (s t : GreatTreeState) (limb : LimbId) : Prop where
  sun : sun t limb = sun s limb
  water : water t limb = water s limb
  running : running t (rootOf s limb) = running s (rootOf s limb)

structure Rooted (s t : GreatTreeState) : Prop where
  crownSeat : t.crownSeat = s.crownSeat
  bijection : t.bijection = s.bijection

/-- The pair that an action is about, and the oldest held one where a fourth sun is set. -/
def Touches (s : GreatTreeState) : GreatTreeAction → LimbId → Prop
  | .setSun limb lit, other => other = limb ∨
    lit = true ∧ limb ∉ s.sunHolds ∧ s.sunHolds.length = 3 ∧ s.sunHolds.head? = some other
  | .setFlow root _, other => rootOf s other = root

theorem running_iff : running s root = true ↔ root ∈ s.waterHolds := List.contains_iff_mem

/-- Closing a pair's root leaves all other pairs as they are. -/
theorem alike_forceClosePairedRoot (paired : Function.Bijective (rootOf s)) {sunHolds : List LimbId}
    (apart : other ≠ limb) (same : other ∈ sunHolds ↔ other ∈ s.sunHolds) :
    Alike s (forceClosePairedRoot { s with sunHolds } limb) other where
  sun := Bool.eq_iff_iff.mpr (sun_iff.trans (same.trans sun_iff.symm))
  water := by
    rw [water_forceClosePairedRoot, if_neg apart]
    rfl
  running := by
    rw [Bool.eq_iff_iff, running_iff, running_iff, mem_forceClosePairedRoot]
    exact and_iff_left (paired.1.ne apart)

theorem Alike.refl (s : GreatTreeState) (limb : LimbId) : Alike s s limb := ⟨rfl, rfl, rfl⟩

theorem Inv.push (inv : Inv s) (new : limb ∉ s.sunHolds) (room : s.sunHolds.length < 3) :
    Inv { s with sunHolds := s.sunHolds ++ [limb] } where
  paired := inv.paired
  sunNodup := by
    rw [← List.concat_eq_append]
    exact inv.sunNodup.concat new
  sunShort := by
    rw [List.length_append, List.length_singleton]
    exact room
  waterNodup := inv.waterNodup
  warmed other held := List.mem_append_left _ (inv.warmed other held)
  latch := inv.latch

/-- Setting one more sun leaves all other pairs as they were. -/
theorem Alike.push {new : LimbId} (alike : Alike s t other) (apart : other ≠ new) :
    Alike s { t with sunHolds := t.sunHolds ++ [new] } other where
  sun := by
    rw [← alike.sun, Bool.eq_iff_iff, sun_iff, sun_iff]
    simp [apart]
  water := alike.water
  running := alike.running

/-- Setting a limb's sun: nothing, one more, or one more for the oldest. -/
theorem Inv.applySetSun_true (inv : Inv s) (limb : LimbId) :
    Inv (applySetSun s limb true) ∧ Rooted s (applySetSun s limb true) ∧
      ∀ other, ¬Touches s (.setSun limb true) other → Alike s (applySetSun s limb true) other := by
  unfold applySetSun
  rw [if_pos rfl]
  split
  · exact ⟨inv, ⟨rfl, rfl⟩, fun other _ => .refl s other⟩
  rename_i new
  rw [List.contains_iff_mem] at new
  have one (room : s.sunHolds.length < 3) : Inv { s with sunHolds := s.sunHolds ++ [limb] } ∧
      Rooted s { s with sunHolds := s.sunHolds ++ [limb] } ∧
      ∀ other, ¬Touches s (.setSun limb true) other →
        Alike s { s with sunHolds := s.sunHolds ++ [limb] } other :=
    ⟨inv.push new room, ⟨rfl, rfl⟩, fun other apart => (Alike.refl s other).push fun same =>
      apart (.inl same)⟩
  split
  · rename_i evicted rest holds
    split
    · rename_i full
      have nodup := holds ▸ inv.sunNodup
      have members (other : LimbId) : other ∈ s.sunHolds ↔ other = evicted ∨ other ∈ rest := by
        rw [holds, List.mem_cons]
      have count : rest.length = 2 := by
        rw [holds, List.length_cons] at full
        omega
      have released := inv.release evicted nodup.of_cons (by omega)
        fun other held apart => ((members other).mp held).resolve_left apart
      refine ⟨released.push (fun held => new ((members limb).mpr (.inr held))) ?_, ⟨rfl, rfl⟩, ?_⟩
      · change rest.length < 3
        omega
      · intro other apart
        have spared : other ≠ evicted := fun same =>
          apart (.inr ⟨rfl, new, full, by rw [holds, same]; rfl⟩)
        refine Alike.push (alike_forceClosePairedRoot inv.paired spared ?_) fun same =>
          apart (.inl same)
        rw [members, or_iff_right spared]
    · rename_i short
      have := inv.sunShort
      exact one (by omega)
  · rename_i none_
    exact one (by rw [none_]; decide)

/-- Taking a limb's sun dries it out. -/
theorem Inv.applySetSun_false (inv : Inv s) (limb : LimbId) :
    Inv (applySetSun s limb false) ∧ Rooted s (applySetSun s limb false) ∧
      ∀ other, ¬Touches s (.setSun limb false) other → Alike s (applySetSun s limb false) other := by
  unfold applySetSun
  rw [if_neg Bool.false_ne_true]
  split
  · refine ⟨inv.release limb (inv.sunNodup.filter _) ?_ ?_, ⟨rfl, rfl⟩, ?_⟩
    · exact (List.length_filter_le ..).trans inv.sunShort
    · exact fun other held apart => List.mem_filter.mpr ⟨held, bne_iff_ne.mpr apart⟩
    · intro other apart
      have spared : other ≠ limb := fun same => apart (.inl same)
      refine alike_forceClosePairedRoot inv.paired spared ?_
      rw [List.mem_filter, and_iff_left (bne_iff_ne.mpr spared)]
  · exact ⟨inv, ⟨rfl, rfl⟩, fun other _ => .refl s other⟩

theorem mem_openRoot (s : GreatTreeState) (limb : LimbId) :
    root ∈ (openRoot s limb).waterHolds ↔ root ∈ s.waterHolds ∨ root = rootOf s limb := by
  unfold openRoot
  rw [List.mem_append, List.mem_singleton]

theorem water_openRoot (s : GreatTreeState) (limb other : LimbId) :
    water (openRoot s limb) other = if other = limb then true else water s other :=
  getElem_set ..

theorem Inv.opened (inv : Inv s) (warm : limb ∈ s.sunHolds)
    (closed : rootOf s limb ∉ s.waterHolds) : Inv (openRoot s limb) where
  paired := inv.paired
  sunNodup := inv.sunNodup
  sunShort := inv.sunShort
  waterNodup := by
    unfold openRoot
    rw [← List.concat_eq_append]
    exact inv.waterNodup.concat closed
  warmed other held := by
    obtain held | same := (mem_openRoot ..).mp held
    · exact inv.warmed other held
    · exact inv.paired.1 same ▸ warm
  latch other := by
    rw [water_openRoot, mem_openRoot]
    change _ ↔ rootOf s other ∈ s.waterHolds ∨ rootOf s other = rootOf s limb
    rw [inv.paired.1.eq_iff, ← inv.latch]
    by_cases same : other = limb
    · simp [same]
    · rw [if_neg same]
      exact (or_iff_left same).symm

/-- Opening a pair's root leaves all other pairs as they are. -/
theorem alike_openRoot (paired : Function.Bijective (rootOf s)) (apart : other ≠ limb) :
    Alike s (openRoot s limb) other where
  sun := rfl
  water := by rw [water_openRoot, if_neg apart]
  running := by
    rw [Bool.eq_iff_iff, running_iff, running_iff, mem_openRoot]
    exact or_iff_left (paired.1.ne apart)

/-- The root of a limb is opened if it is thawed, and closed as if its limb had lost the sun. -/
theorem Inv.applySetFlow_eq (inv : Inv s) (limb : LimbId) (isOpen : Bool) :
    applySetFlow s (rootOf s limb) isOpen = some (
      if isOpen then
        if rootOf s limb ∈ s.waterHolds then .ok s
        else if limb ∈ s.sunHolds then .ok (openRoot s limb)
        else .error .rootFrozen
      else if rootOf s limb ∈ s.waterHolds then .ok (forceClosePairedRoot s limb)
      else .ok s) := by
  unfold applySetFlow
  have known := limbForRoot_rootOf inv.paired limb
  cases isOpen with
  | false =>
    by_cases held : rootOf s limb ∈ s.waterHolds
    · simp [held, known]
      rfl
    · simp [held]
  | true =>
    by_cases held : rootOf s limb ∈ s.waterHolds
    · simp [held]
    · by_cases warm : limb ∈ s.sunHolds
      · simp [held, warm, known, inv.thawed_rootOf, sun, inv.evictRoot warm held]
        rfl
      · simp [held, warm, inv.thawed_rootOf, sun]

/-- What an accepted flow leads to: nothing, a thawed root open, or a root closed. -/
theorem Inv.applySetFlow_ok (inv : Inv s) {isOpen : Bool}
    (accepted : applySetFlow s root isOpen = some (.ok t)) :
    Inv t ∧ Rooted s t ∧ ∀ other, ¬Touches s (.setFlow root isOpen) other → Alike s t other := by
  obtain ⟨limb, rfl⟩ := inv.paired.2 root
  rw [inv.applySetFlow_eq, Option.some.injEq] at accepted
  split at accepted
  · split at accepted
    · cases accepted
      exact ⟨inv, ⟨rfl, rfl⟩, fun other _ => .refl s other⟩
    rename_i closed
    split at accepted
    · rename_i warm
      cases accepted
      refine ⟨inv.opened warm closed, ⟨rfl, rfl⟩, fun other apart => ?_⟩
      exact alike_openRoot inv.paired fun same => apart (congrArg _ same)
    · cases accepted
  · split at accepted
    · cases accepted
      have closes := inv.release limb inv.sunNodup inv.sunShort fun other held _ => held
      refine ⟨closes, ⟨rfl, rfl⟩, fun other apart => ?_⟩
      exact alike_forceClosePairedRoot inv.paired (fun same => apart (congrArg _ same)) Iff.rfl
    · cases accepted
      exact ⟨inv, ⟨rfl, rfl⟩, fun other _ => .refl s other⟩

theorem Inv.applyAction_ok (inv : Inv s) {action : GreatTreeAction} {actor : PlayerRole}
    (accepted : applyAction s action actor = some (.ok t)) :
    Inv t ∧ Rooted s t ∧ ∀ other, ¬Touches s action other → Alike s t other := by
  unfold applyAction at accepted
  split at accepted
  · cases accepted
  cases action with
  | setSun limb lit =>
    cases accepted
    cases lit with
    | false => exact inv.applySetSun_false limb
    | true => exact inv.applySetSun_true limb
  | setFlow root isOpen =>
    obtain ⟨flow, flows, ok⟩ := Option.map_eq_some_iff.mp accepted
    cases flow with
    | error rejection => cases ok
    | ok next =>
      cases ok
      exact inv.applySetFlow_ok flows

/-- An action never panics, and it is rejected by its role or by the frost. -/
theorem Inv.applyAction_error (inv : Inv s) (action : GreatTreeAction) (actor : PlayerRole) :
    applyAction s action actor ≠ none ∧
    ((∃ rejection, applyAction s action actor = some (.error rejection)) ↔
      actor ≠ roleForAction s action ∨
      ∃ root, action = .setFlow root true ∧ thawed s root = some false) := by
  unfold applyAction
  by_cases wrong : actor ≠ roleForAction s action
  · simp [wrong]
  rw [if_neg wrong]
  cases action with
  | setSun limb lit => simp [wrong]
  | setFlow root isOpen =>
    obtain ⟨limb, rfl⟩ := inv.paired.2 root
    have frozen : thawed s (rootOf s limb) = some false ↔ limb ∉ s.sunHolds := by
      rw [inv.thawed_rootOf, Option.some.injEq, Bool.eq_false_iff, ne_eq, sun_iff]
    have warmed := inv.warmed limb
    simp only [inv.applySetFlow_eq]
    cases isOpen <;> by_cases held : rootOf s limb ∈ s.waterHolds <;>
      by_cases warm : limb ∈ s.sunHolds <;> simp_all [Except.mapError]

theorem Rooted.trans {u : GreatTreeState} (first : Rooted s t) (second : Rooted t u) : Rooted s u :=
  ⟨second.crownSeat.trans first.crownSeat, second.bijection.trans first.bijection⟩

variable {rng : StdRng} {seat : CrownSeat} {seed : UInt64}

/-- A shuffle that permutes pairs each limb with a root of its own. -/
theorem paired_of_perm (perm : s.bijection.toList.Perm RootId.all.toList) :
    Function.Bijective (rootOf s) := by
  have nodup : s.bijection.toList.Nodup := perm.nodup_iff.mpr (by decide)
  have listed (limb : LimbId) : s.bijection.toList[limb.index.val]? = some (rootOf s limb) := by
    simp [rootOf]
  have places : ∀ i : Fin 5, LimbId.all[i].index = i := by decide
  have placed (i : Fin 5) : ∃ limb : LimbId, limb.index = i := ⟨LimbId.all[i], places i⟩
  constructor
  · intro a b same
    have same := (listed a).trans ((congrArg some same).trans (listed b).symm)
    have bound : a.index.val < s.bijection.toList.length := by
      rw [Vector.length_toList]
      exact a.index.isLt
    exact index_injective (Fin.ext ((List.getElem?_inj bound nodup).mp same))
  · intro root
    have member : root ∈ s.bijection := by
      rw [← Vector.mem_toList_iff, perm.mem_iff]
      cases root <;> decide
    obtain ⟨i, bound, rfl⟩ := Vector.getElem_of_mem member
    obtain ⟨limb, place⟩ := placed ⟨i, bound⟩
    exact ⟨limb, by simp only [rootOf, Fin.getElem_fin, place]⟩

/-- One limb that has its sun and its water. -/
theorem inv_of_one (perm : s.bijection.toList.Perm RootId.all.toList) (sun : s.sunHolds = [limb])
    (flow : s.waterHolds = [rootOf s limb])
    (wet : ∀ other, water s other = decide (other = limb)) : Inv s := by
  have paired := paired_of_perm perm
  refine ⟨paired, sun ▸ List.nodup_singleton _, by simp [sun], flow ▸ List.nodup_singleton _, ?_, ?_⟩
  · intro other held
    rw [flow, List.mem_singleton] at held
    rw [sun, List.mem_singleton]
    exact paired.1 held
  · intro other
    rw [wet, flow, List.mem_singleton, paired.1.eq_iff, decide_eq_true_eq]

theorem inv_initialState
    (shuffles : ∀ roots state, (rng.shuffle roots state).1.toList.Perm roots.toList) :
    Inv (initialState rng seat seed) :=
  inv_of_one (shuffles ..) rfl rfl fun other => by
    change ((Vector.replicate 5 false).set _ true)[other.index] = _
    rw [getElem_set]
    by_cases same : other = (generate rng seed).1
    · simp [same]
    · simp

theorem Inv.of_run {guard : GreatTreeState → GreatTreeAction × PlayerRole → Prop} (inv : Inv s)
    (run : greatTreeMachine.Run guard s t) : Inv t ∧ Rooted s t := by
  refine run.invariant ⟨inv, rfl, rfl⟩ ?_
  rintro t u ⟨action, actor⟩ ⟨inv, rooted⟩ - step
  cases outcome : applyAction t action actor with
  | none => simp [greatTreeMachine, outcome] at step
  | some result =>
    cases result with
    | error rejection => simp [greatTreeMachine, outcome] at step
    | ok next =>
      simp only [greatTreeMachine, outcome, Option.some.injEq] at step
      obtain ⟨inv, further, -⟩ := inv.applyAction_ok outcome
      exact step ▸ ⟨inv, rooted.trans further⟩

theorem Inv.flowered_eq (inv : Inv s) (limb : LimbId) : flowered s limb = water s limb := by
  rw [Bool.eq_iff_iff, flowered, Bool.and_eq_true, and_iff_right_iff_imp, inv.latch, sun_iff]
  exact inv.warmed limb

/-- The open roots are those of the flowered limbs. -/
theorem Inv.perm_flowered (inv : Inv s) :
    ((LimbId.all.toList.filter (flowered s)).map (rootOf s)).Perm s.waterHolds := by
  have nodup : LimbId.all.toList.Nodup := by decide
  refine (List.perm_ext_iff_of_nodup ((nodup.filter _).map inv.paired.1) inv.waterNodup).mpr ?_
  intro root
  obtain ⟨limb, rfl⟩ := inv.paired.2 root
  rw [List.mem_map_of_injective inv.paired.1, List.mem_filter, and_iff_right (mem_all limb),
    inv.flowered_eq, inv.latch]

theorem Inv.completion (inv : Inv s) :
    (completion s).isSome = true ↔ s.waterHolds.length = 3 := by
  have count := inv.perm_flowered.length_eq
  have short := inv.waterShort
  rw [List.length_map] at count
  unfold GreatTree.completion
  dsimp only
  rw [count]
  split
  · simp only [Option.isSome_some, true_iff]
    omega
  · simp only [Option.isSome_none, Bool.false_eq_true, false_iff]
    omega

/-- What a state shows of its holds: bounded, free of duplicates, and water only where it is warm. -/
structure Kept (s : GreatTreeState) : Prop where
  sunNodup : s.sunHolds.Nodup
  sunShort : s.sunHolds.length ≤ 3
  waterNodup : s.waterHolds.Nodup
  waterShort : s.waterHolds.length ≤ 3
  warm : ∀ root ∈ s.waterHolds, thawed s root = some true
  latch : ∀ limb, water s limb = true ↔ rootOf s limb ∈ s.waterHolds
  sunny : ∀ limb, water s limb = true → sun s limb = true
  flowers : ∀ limb, flowered s limb = water s limb
  /-- The only place where a fourth root could evict one is not reached with three. -/
  room : ∀ root, running s root = false → thawed s root = some true → s.waterHolds.length ≠ 3
  complete : (completion s).isSome = true ↔ s.waterHolds.length = 3

theorem Inv.kept (inv : Inv s) : Kept s where
  sunNodup := inv.sunNodup
  sunShort := inv.sunShort
  waterNodup := inv.waterNodup
  waterShort := inv.waterShort
  warm root held := by
    obtain ⟨limb, rfl⟩ := inv.paired.2 root
    rw [inv.thawed_rootOf, sun_iff.mpr (inv.warmed limb held)]
  latch := inv.latch
  sunny limb wet := sun_iff.mpr (inv.warmed limb ((inv.latch limb).mp wet))
  flowers := inv.flowered_eq
  room root closed warm := by
    obtain ⟨limb, rfl⟩ := inv.paired.2 root
    rw [inv.thawed_rootOf, Option.some.injEq, sun_iff] at warm
    rw [Bool.eq_false_iff, ne_eq, running_iff] at closed
    exact (inv.room warm closed).ne
  complete := inv.completion

/-- A pair whose limb and root show the same before and after. -/
structure Untouched (s t : GreatTreeState) (limb : LimbId) : Prop extends Alike s t limb where
  thawed : thawed t (rootOf s limb) = thawed s (rootOf s limb)

theorem Alike.untouched (alike : Alike s t limb) (before : Inv s) (after : Inv t)
    (rooted : Rooted s t) : Untouched s t limb := by
  have same : rootOf t limb = rootOf s limb := by
    unfold rootOf
    rw [rooted.bijection]
  refine ⟨alike, ?_⟩
  rw [before.thawed_rootOf, ← same, after.thawed_rootOf, alike.sun]

/-- In every reachable state of every session, and for every action of either seat. -/
theorem great_tree_invariants (rng : StdRng) (seat : CrownSeat) (seed : UInt64)
    (shuffles : ∀ roots state, (rng.shuffle roots state).1.toList.Perm roots.toList)
    (run : greatTreeMachine.Run Machine.unguarded (initialState rng seat seed) s) :
    Kept s ∧ s.crownSeat = seat ∧ Function.Bijective (rootOf s) ∧
    s.bijection = (initialState rng seat seed).bijection ∧
    ∀ action actor, applyAction s action actor ≠ none ∧
      ((∃ rejection, applyAction s action actor = some (.error rejection)) ↔
        actor ≠ roleForAction s action ∨
        ∃ root, action = .setFlow root true ∧ thawed s root = some false) ∧
      ∀ t, applyAction s action actor = some (.ok t) →
        ∀ limb, ¬Touches s action limb → Untouched s t limb := by
  obtain ⟨inv, rooted⟩ := (inv_initialState shuffles).of_run run
  refine ⟨inv.kept, rooted.crownSeat, inv.paired, rooted.bijection, fun action actor => ?_⟩
  obtain ⟨runs, rejected⟩ := inv.applyAction_error action actor
  refine ⟨runs, rejected, fun t accepted limb apart => ?_⟩
  obtain ⟨after, rooted, alike⟩ := inv.applyAction_ok accepted
  exact (alike limb apart).untouched inv after rooted

def reversing : StdRng where
  State := Unit
  seedFromU64 _ := ()
  shuffle roots _ := (roots.reverse, ())
  genRange _ := ⟨2, by decide⟩

def fourSuns : List (GreatTreeAction × PlayerRole) :=
  [(.setSun .spire true, .B), (.setFlow .deep true, .A), (.setSun .hook true, .B),
    (.setSun .cradle true, .B)]

def afterFour : GreatTreeState where
  crownSeat := .B
  sunHolds := [.spire, .hook, .cradle]
  waterHolds := [.deep]
  limbWater := #v[true, false, false, false, false]
  bijection := #v[.deep, .swollen, .tip, .knot, .hand]

theorem great_tree_invariants_reversed :
    greatTreeMachine.exec (initialState reversing .B 7) fourSuns = some afterFour ∧
    Kept afterFour ∧
    ∃ rejection, applyAction afterFour (.setFlow .tip true) .A = some (.error rejection) := by
  have ran : greatTreeMachine.exec (initialState reversing .B 7) fourSuns = some afterFour := by
    decide +kernel
  have shuffles : ∀ roots state, (reversing.shuffle roots state).1.toList.Perm roots.toList := by
    intro roots _
    simp [reversing]
  obtain ⟨kept, -, -, -, acts⟩ :=
    great_tree_invariants reversing .B 7 shuffles (.of_exec_unguarded ran)
  exact ⟨ran, kept, (acts (.setFlow .tip true) .A).2.1.mpr (.inr ⟨.tip, rfl, by decide⟩)⟩

end Parlando.GreatTree
