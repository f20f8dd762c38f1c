import Parlando.Proofs.Uninterrupted
import Mathlib.Data.List.Nodup

namespace Parlando

/-- Traversals that tell the same elements apart find the same repetitions. -/
theorem nodup_map_iff_of_forall₂ {α β γ δ : Type} {r : α → β → Prop} {f : α → γ} {g : β → δ}
    {xs : List α} {ys : List β} (related : List.Forall₂ r xs ys)
    (same : ∀ {x y x' y'}, r x y → r x' y' → (f x = f x' ↔ g y = g y')) :
    (xs.map f).Nodup ↔ (ys.map g).Nodup := by
  induction related with
  | nil => simp
  | @cons x y xs ys here rest ih =>
    have mem : f x ∈ xs.map f ↔ g y ∈ ys.map g := by
      clear ih
      induction rest with
      | nil => simp
      | cons next _ ih =>
        rw [List.map_cons, List.map_cons, List.mem_cons, List.mem_cons, same here next, ih]
    rw [List.map_cons, List.map_cons, List.nodup_cons, List.nodup_cons, mem, ih]

namespace AgentExperiment

open Value (canonicalValue canonicalValue_member json)

/-- The seeds of a set, each with the name and the configuration of the scenario it is for. -/
def seededScenarios (scenarios : List ScenarioSpec) : List (String × JsonValue × Nat) :=
  scenarios.flatMap fun scenario =>
    scenario.seeds.map fun seed => (scenario.name, scenario.config, seed)

/-- What the document of a plan says of its coordinates. -/
def Coordinates.key (coordinates : Coordinates) : (String × JsonValue × Nat) × Nat × String :=
  ((coordinates.scenario.name, coordinates.scenario.config, coordinates.gameSeed),
    coordinates.repetition, coordinates.mirrorLeg)

namespace SessionSet

variable {set : SessionSet} {coordinates coordinates' : Coordinates}

def block (set : SessionSet) (scenario : ScenarioSpec) (gameSeed : Nat) : List Coordinates :=
  (List.range scenario.repetitions).flatMap fun repetition =>
    (assignments set.seats set.mirrorRoles).map fun (playerA, playerB, mirrorLeg) =>
      { scenario, gameSeed, repetition, playerA, playerB, mirrorLeg }

def seeded (set : SessionSet) : List (ScenarioSpec × Nat) :=
  set.scenarios.flatMap fun scenario => scenario.seeds.map fun seed => (scenario, seed)

theorem coordinates_eq (set : SessionSet) :
    set.coordinates = set.seeded.flatMap fun pair => set.block pair.1 pair.2 := by
  simp only [coordinates, seeded, block, List.flatMap_assoc, List.flatMap_map]

theorem seededScenarios_eq (set : SessionSet) :
    seededScenarios set.scenarios =
      set.seeded.map fun pair => (pair.1.name, pair.1.config, pair.2) := by
  simp only [seededScenarios, seeded, List.map_flatMap, List.map_map]
  rfl

theorem block_keys (set : SessionSet) (scenario : ScenarioSpec) (gameSeed : Nat) :
    (set.block scenario gameSeed).map Coordinates.key =
      ((List.range scenario.repetitions).product
        ((assignments set.seats set.mirrorRoles).map fun leg => leg.2.2)).map
          fun place => ((scenario.name, scenario.config, gameSeed), place) := by
  simp only [block, List.product, List.map_flatMap, List.map_map]
  rfl

/-- The legs of a set have different names, and one is the original. -/
theorem legs (seats : SeatAssignments) (mirrorRoles : Bool) :
    ((assignments seats mirrorRoles).map fun leg => leg.2.2).Nodup ∧
      "original" ∈ (assignments seats mirrorRoles).map fun leg => leg.2.2 := by
  rw [assignments]
  split
  · exact ⟨by simp, by simp⟩
  · exact ⟨by simp, by simp⟩

/-- The sessions of a set are told apart by what their seeds are for. -/
theorem nodup_keys (positive : ∀ scenario ∈ set.scenarios, 0 < scenario.repetitions) :
    (set.coordinates.map Coordinates.key).Nodup ↔ (seededScenarios set.scenarios).Nodup := by
  obtain ⟨distinct, original⟩ := legs set.seats set.mirrorRoles
  have seedsApart : (seededScenarios set.scenarios).Nodup ↔ set.seeded.Pairwise fun pair pair' =>
      (pair.1.name, pair.1.config, pair.2) ≠ (pair'.1.name, pair'.1.config, pair'.2) := by
    rw [seededScenarios_eq]
    exact List.pairwise_map
  rw [coordinates_eq, List.map_flatMap, List.nodup_flatMap, seedsApart]
  have each : ∀ pair ∈ set.seeded, ((set.block pair.1 pair.2).map Coordinates.key).Nodup := by
    intro pair _
    rw [block_keys]
    refine List.Nodup.map (fun _ _ same => (Prod.mk.inj same).2) ?_
    exact List.Nodup.product List.nodup_range distinct
  refine ⟨fun apart => apart.2.imp_of_mem ?_, fun apart => ⟨each, apart.imp_of_mem ?_⟩⟩
  · -- Two blocks of one key share their first place.
    intro pair pair' mem mem' disjoint same
    obtain ⟨scenario, within, mem⟩ := List.mem_flatMap.mp mem
    obtain ⟨seed, -, rfl⟩ := List.mem_map.mp mem
    obtain ⟨scenario', within', mem'⟩ := List.mem_flatMap.mp mem'
    obtain ⟨seed', -, rfl⟩ := List.mem_map.mp mem'
    simp only [Function.onFun, block_keys] at disjoint
    have first {scenario : ScenarioSpec} (within : scenario ∈ set.scenarios) :
        (0, "original") ∈ (List.range scenario.repetitions).product
          ((assignments set.seats set.mirrorRoles).map fun leg => leg.2.2) :=
      List.pair_mem_product.mpr ⟨List.mem_range.mpr (positive _ within), original⟩
    refine disjoint (List.mem_map_of_mem (first within)) ?_
    rw [show (scenario.name, scenario.config, seed) = (scenario'.name, scenario'.config, seed')
      from same]
    exact List.mem_map_of_mem (first within')
  · intro pair pair' _ _ differ
    simp only [Function.onFun, block_keys]
    intro key mem mem'
    obtain ⟨place, -, rfl⟩ := List.mem_map.mp mem
    obtain ⟨place', -, same⟩ := List.mem_map.mp mem'
    exact differ (Prod.mk.inj same).1.symm

theorem seated (mem : coordinates ∈ set.coordinates) :
    (coordinates.playerA, coordinates.playerB, coordinates.mirrorLeg) ∈
      assignments set.seats set.mirrorRoles := by
  obtain ⟨scenario, -, mem⟩ := List.mem_flatMap.mp mem
  obtain ⟨gameSeed, -, mem⟩ := List.mem_flatMap.mp mem
  obtain ⟨repetition, -, mem⟩ := List.mem_flatMap.mp mem
  obtain ⟨⟨playerA, playerB, leg⟩, here, rfl⟩ := List.mem_map.mp mem
  exact here

/-- The leg tells who takes which role. -/
theorem players_eq (mem : coordinates ∈ set.coordinates) (mem' : coordinates' ∈ set.coordinates)
    (same : coordinates.mirrorLeg = coordinates'.mirrorLeg) :
    coordinates.playerA = coordinates'.playerA ∧ coordinates.playerB = coordinates'.playerB := by
  have here := seated mem
  have there := seated mem'
  rw [assignments] at here there
  split at here
  · rename_i mirrored
    rw [if_pos mirrored] at there
    simp only [List.mem_cons, Prod.mk.injEq, List.not_mem_nil, or_false] at here there
    rcases here with ⟨a, b, leg⟩ | ⟨a, b, leg⟩ <;> rcases there with ⟨a', b', leg'⟩ | ⟨a', b', leg'⟩
    · exact ⟨a.trans a'.symm, b.trans b'.symm⟩
    · simp [leg, leg'] at same
    · simp [leg, leg'] at same
    · exact ⟨a.trans a'.symm, b.trans b'.symm⟩
  · rename_i single
    rw [if_neg single] at there
    simp only [List.mem_singleton, Prod.mk.injEq] at here there
    exact ⟨here.1.trans there.1.symm, here.2.1.trans there.2.1.symm⟩

/-- Only the agents that the set seats play in it. -/
theorem players_seated (mem : coordinates ∈ set.coordinates) :
    (coordinates.playerA = set.seats.playerA ∨ coordinates.playerA = set.seats.playerB) ∧
      (coordinates.playerB = set.seats.playerA ∨ coordinates.playerB = set.seats.playerB) := by
  have here := seated mem
  rw [assignments] at here
  split at here
  · simp only [List.mem_cons, Prod.mk.injEq, List.not_mem_nil, or_false] at here
    rcases here with ⟨a, b, -⟩ | ⟨a, b, -⟩
    · exact ⟨.inl a, .inr b⟩
    · exact ⟨.inr a, .inl b⟩
  · simp only [List.mem_singleton, Prod.mk.injEq] at here
    exact ⟨.inl here.1, .inr here.2.1⟩

theorem mem_scenarios (mem : coordinates ∈ set.coordinates) :
    coordinates.scenario ∈ set.scenarios := by
  obtain ⟨scenario, within, mem⟩ := List.mem_flatMap.mp mem
  obtain ⟨gameSeed, -, mem⟩ := List.mem_flatMap.mp mem
  obtain ⟨repetition, -, mem⟩ := List.mem_flatMap.mp mem
  obtain ⟨leg, -, rfl⟩ := List.mem_map.mp mem
  exact within

end SessionSet

namespace ExperimentRunner

variable {Config : Type} {game : CompiledGame Config} {runner : ExperimentRunner}
  {spec : ExperimentFile} {runId : String} {set : SessionSet}
  {coordinates coordinates' : Coordinates} {plan plan' : SessionPlan Config}

/-- Equal keys make equal documents, and so equal identities. -/
theorem planId_of_key (mem : coordinates ∈ set.coordinates) (mem' : coordinates' ∈ set.coordinates)
    (planned : runner.sessionPlan game spec runId set coordinates = .ok plan)
    (planned' : runner.sessionPlan game spec runId set coordinates' = .ok plan')
    (same : coordinates.key = coordinates'.key) : plan.planId = plan'.planId := by
  obtain ⟨scenario, gameSeed, repetition, playerA, playerB, leg⟩ := coordinates
  obtain ⟨scenario', gameSeed', repetition', playerA', playerB', leg'⟩ := coordinates'
  simp only [Coordinates.key, Prod.mk.injEq] at same
  obtain ⟨⟨name, config, rfl⟩, rfl, rfl⟩ := same
  obtain ⟨rfl, rfl⟩ := SessionSet.players_eq mem mem' rfl
  obtain ⟨_, -, planned⟩ := Except.of_bind_ok planned
  obtain ⟨_, -, planned'⟩ := Except.of_bind_ok planned'
  obtain ⟨seatA, first, planned⟩ := Except.of_bind_ok planned
  obtain ⟨seatA', first', planned'⟩ := Except.of_bind_ok planned'
  obtain ⟨seatB, second, planned⟩ := Except.of_bind_ok planned
  obtain ⟨seatB', second', planned'⟩ := Except.of_bind_ok planned'
  obtain ⟨_, -, planned⟩ := Except.of_bind_ok planned
  obtain ⟨_, -, planned'⟩ := Except.of_bind_ok planned'
  obtain rfl : seatA = seatA' := Except.ok.inj (first.symm.trans first')
  obtain rfl : seatB = seatB' := Except.ok.inj (second.symm.trans second')
  cases planned
  cases planned'
  simp only [planDocument, name, config]

/-- Plans of a set with one identity have one key. -/
theorem key_of_planId (injective : Injective game.sha256)
    (planned : runner.sessionPlan game spec runId set coordinates = .ok plan)
    (planned' : runner.sessionPlan game spec runId set coordinates' = .ok plan')
    (same : plan.planId = plan'.planId) : coordinates.key = coordinates'.key := by
  obtain ⟨_, -, planned⟩ := Except.of_bind_ok planned
  obtain ⟨_, -, planned'⟩ := Except.of_bind_ok planned'
  obtain ⟨seatA, -, planned⟩ := Except.of_bind_ok planned
  obtain ⟨seatA', -, planned'⟩ := Except.of_bind_ok planned'
  obtain ⟨seatB, -, planned⟩ := Except.of_bind_ok planned
  obtain ⟨seatB', -, planned'⟩ := Except.of_bind_ok planned'
  obtain ⟨_, -, planned⟩ := Except.of_bind_ok planned
  obtain ⟨_, -, planned'⟩ := Except.of_bind_ok planned'
  cases planned
  cases planned'
  have document := hashValue_eq injective same
  have name := string_eq (canonicalValue_member document "scenario" rfl rfl)
  have config := JsonValue.eq_of_canonical (canonicalValue_member document "config" rfl rfl)
  have gameSeed := nat_eq (canonicalValue_member document "game_seed" rfl rfl)
  have repetition := nat_eq (canonicalValue_member document "repetition" rfl rfl)
  have leg := string_eq (canonicalValue_member document "mirror_leg" rfl rfl)
  simp only [Coordinates.key, name, config, gameSeed, repetition, leg]

end ExperimentRunner

theorem rejectDuplicates_iff {seen ids : List String} :
    rejectDuplicates seen ids = .ok ⟨⟩ ↔ ids.Nodup ∧ ∀ id ∈ ids, id ∉ seen := by
  refine ⟨ExperimentProgram.rejectDuplicates_nodup, fun distinct => ?_⟩
  induction ids generalizing seen with
  | nil => rfl
  | cons id ids ih =>
    obtain ⟨nodup, unseen⟩ := distinct
    obtain ⟨new, nodup⟩ := List.nodup_cons.mp nodup
    rw [rejectDuplicates, if_neg (by simpa using unseen id List.mem_cons_self)]
    refine ih ⟨nodup, fun other mem => ?_⟩
    rw [List.mem_cons, not_or]
    exact ⟨fun same => new (same ▸ mem), unseen other (List.mem_cons_of_mem _ mem)⟩

/-- A set whose seats and configurations resolve can be planned when it repeats no seed. -/
theorem ExperimentRunner.planSet_ok_iff {Config : Type} {game : CompiledGame Config}
    {runner : ExperimentRunner} {spec : ExperimentFile} {runId : String} {set : SessionSet}
    (injective : Injective game.sha256)
    (positive : ∀ scenario ∈ set.scenarios, 0 < scenario.repetitions)
    (resolves : ∀ coordinates ∈ set.coordinates,
      ∃ plan, runner.sessionPlan game spec runId set coordinates = .ok plan) :
    (∃ plans, runner.planSet game spec runId set = .ok plans) ↔
      (seededScenarios set.scenarios).Nodup := by
  obtain ⟨plans, mapped⟩ := Except.mapM_total resolves
  have related := (List.forall₂_and_left _ _).mpr
    ⟨fun _ mem => mem, Except.forall₂_of_mapM_ok mapped⟩
  have identities : (set.coordinates.map Coordinates.key).Nodup ↔
      (plans.map SessionPlan.planId).Nodup :=
    nodup_map_iff_of_forall₂ related fun ⟨mem, planned⟩ ⟨mem', planned'⟩ =>
      ⟨planId_of_key mem mem' planned planned', key_of_planId injective planned planned'⟩
  rw [← SessionSet.nodup_keys positive, identities]
  simp only [planSet, mapped, bind, Except.bind]
  constructor
  · intro ⟨expanded, planned⟩
    split at planned
    · cases planned
    · rename_i distinct
      exact (rejectDuplicates_iff.mp distinct).1
  · intro nodup
    exact ⟨plans, by rw [rejectDuplicates_iff.mpr ⟨nodup, by simp⟩]; rfl⟩

end AgentExperiment

end Parlando
