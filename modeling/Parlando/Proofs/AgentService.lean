import Parlando.AgentService

namespace Parlando

open Concurrency

namespace AgentRpc

def storedId? : AgentRpc → Option String
  | releasing stored => stored
  | returned agentId => some agentId
  | _ => none

/-- Two places of the code between which the accounts of the service do not change. -/
structure Alike (old new : AgentRpc) : Prop where
  reserves : old.reserves = new.reserves
  isCreating : old.isCreating = new.isCreating
  storedId : old.storedId? = new.storedId?

end AgentRpc

namespace AgentService

variable {s : AgentService} {i : Nat} {uuid : Nat → String} {rpc old new : AgentRpc}

structure Accounted (uuid : Nat → String) (s : AgentService) : Prop where
  counter : s.creatingAgents = s.rpcs.countP AgentRpc.reserves
  room : s.agents.entries.length + s.rpcs.countP AgentRpc.isCreating ≤ s.maxAgents
  named : ∀ agentId agent, s.agents.lookup agentId = some agent →
    agentId = uuid agent ∧ agent ∈ s.stored
  keys : ∀ agentId, agentId ∈ s.agents ↔ agentId ∈ s.loggers
  bound : ∀ agent ∈ s.stored, agent < s.rpcs.length
  ids : ∀ i rpc, s.rpcs[i]? = some rpc →
    rpc.storedId? = if i ∈ s.stored then some (uuid i) else none
  shutdowns : ∀ agent, s.shutdowns.count agent =
    if agent ∈ s.stored ∧ s.agents.lookup (uuid agent) = none then 1 else 0

theorem countP_set {rpcs : List AgentRpc} (here : rpcs[i]? = some old) (p : AgentRpc → Bool)
    (new : AgentRpc) :
    (rpcs.set i new).countP p + (p old).toNat = rpcs.countP p + (p new).toNat := by
  obtain ⟨inside, same⟩ := List.getElem?_eq_some_iff.mp here
  have counted := List.boole_getElem_le_countP (p := p) inside
  rw [List.countP_set inside]
  rw [same] at counted ⊢
  have flag (x : AgentRpc) : (p x).toNat = if p x = true then 1 else 0 := by cases p x <;> rfl
  rw [flag, flag]
  omega

@[simp] theorem setRpc_setRpc : (s.setRpc i old).setRpc i new = s.setRpc i new := by
  simp [setRpc]

theorem getElem?_setRpc {j : Nat} (inside : i < s.rpcs.length) :
    (s.setRpc i rpc).rpcs[j]? = if i = j then some rpc else s.rpcs[j]? := by
  rw [setRpc, List.getElem?_set]
  split
  · rfl
  · rfl

namespace Accounted

theorem relock (accounted : Accounted uuid s) (agentLock : FairLock Nat) :
    Accounted uuid { s with agentLock } :=
  ⟨accounted.counter, accounted.room, accounted.named, accounted.keys, accounted.bound,
    accounted.ids, accounted.shutdowns⟩

theorem bound_setRpc (accounted : Accounted uuid s) :
    ∀ agent ∈ s.stored, agent < (s.setRpc i new).rpcs.length := by
  intro agent mem
  rw [setRpc, List.length_set]
  exact accounted.bound agent mem

/-- The ids after a change of one RPC that leaves the stored agents alone. -/
theorem ids_setRpc (accounted : Accounted uuid s) (here : s.rpcs[i]? = some old)
    (same : old.storedId? = new.storedId?) (j : Nat) (rpc : AgentRpc)
    (there : (s.setRpc i new).rpcs[j]? = some rpc) :
    rpc.storedId? = if j ∈ s.stored then some (uuid j) else none := by
  rw [getElem?_setRpc (List.getElem?_eq_some_iff.mp here).1] at there
  split at there
  · rename_i self
    subst self
    cases there
    exact same ▸ accounted.ids i old here
  · exact accounted.ids j rpc there

theorem replace (accounted : Accounted uuid s) (here : s.rpcs[i]? = some old)
    (alike : old.Alike new) : Accounted uuid (s.setRpc i new) where
  counter := by
    have counts := countP_set here AgentRpc.reserves new
    rw [alike.reserves] at counts
    change s.creatingAgents = (s.rpcs.set i new).countP _
    rw [Nat.add_right_cancel counts]
    exact accounted.counter
  room := by
    have counts := countP_set here AgentRpc.isCreating new
    rw [alike.isCreating] at counts
    change s.agents.entries.length + (s.rpcs.set i new).countP _ ≤ s.maxAgents
    rw [Nat.add_right_cancel counts]
    exact accounted.room
  named := accounted.named
  keys := accounted.keys
  bound := accounted.bound_setRpc
  ids := accounted.ids_setRpc here alike.storedId
  shutdowns := accounted.shutdowns

/-- A reserved place is given up. -/
theorem release {stored : Option String} (accounted : Accounted uuid s)
    (here : s.rpcs[i]? = some (.releasing stored)) : Accounted uuid (s.release i stored) := by
  have counts (new : AgentRpc) := countP_set here AgentRpc.reserves new
  have rooms (new : AgentRpc) := countP_set here AgentRpc.isCreating new
  have settled (new : AgentRpc) (finished : new.reserves = false) (done : new.isCreating = false)
      (same : (AgentRpc.releasing stored).storedId? = new.storedId?) :
      Accounted uuid ({ s with creatingAgents := s.creatingAgents - 1 }.setRpc i new) := {
    counter := by
      have one := counts new
      rw [finished] at one
      change s.creatingAgents - 1 = ((s.rpcs.set i new).countP _ : Nat)
      rw [accounted.counter]
      simp only [AgentRpc.reserves, Bool.toNat_true, Bool.toNat_false] at one
      omega
    room := by
      have fewer := rooms new
      rw [done] at fewer
      change s.agents.entries.length + (s.rpcs.set i new).countP _ ≤ s.maxAgents
      have before := accounted.room
      simp only [Bool.toNat_false] at fewer
      omega
    named := accounted.named
    keys := accounted.keys
    bound := accounted.bound_setRpc
    ids := accounted.ids_setRpc here same
    shutdowns := accounted.shutdowns }
  cases stored with
  | none => exact settled .failed rfl rfl rfl
  | some agentId => exact settled (.returned agentId) rfl rfl rfl

/-- A free place is reserved. -/
theorem begin (accounted : Accounted uuid s) (here : s.rpcs[i]? = some .reserving)
    (free : s.agents.entries.length + s.creatingAgents < s.maxAgents) :
    Accounted uuid ({ s with creatingAgents := s.creatingAgents + 1 }.setRpc i .creating) where
  counter := by
    have one := countP_set here AgentRpc.reserves .creating
    change s.creatingAgents + 1 = ((s.rpcs.set i .creating).countP _ : Nat)
    rw [accounted.counter]
    simp only [AgentRpc.reserves, Bool.toNat_true, Bool.toNat_false] at one
    omega
  room := by
    have one := countP_set here AgentRpc.isCreating .creating
    have fewer : s.rpcs.countP AgentRpc.isCreating ≤ s.rpcs.countP AgentRpc.reserves :=
      List.countP_mono_left fun rpc _ creating => by cases rpc <;> first | rfl | cases creating
    have counter := accounted.counter
    change s.agents.entries.length + (s.rpcs.set i .creating).countP _ ≤ s.maxAgents
    simp only [AgentRpc.isCreating, Bool.toNat_true, Bool.toNat_false] at one
    omega
  named := accounted.named
  keys := accounted.keys
  bound := accounted.bound_setRpc
  ids := accounted.ids_setRpc here rfl
  shutdowns := accounted.shutdowns

/-- An RPC that has not stored its agent finds its id unused. -/
theorem unused (accounted : Accounted uuid s) (distinct : uuid.Injective)
    (here : s.rpcs[i]? = some .storing) :
    i ∉ s.stored ∧ s.agents.lookup (uuid i) = none := by
  have absent : i ∉ s.stored := by
    intro mem
    have id := accounted.ids i _ here
    rw [if_pos mem] at id
    cases id
  refine ⟨absent, ?_⟩
  cases found : s.agents.lookup (uuid i) with
  | none => rfl
  | some agent =>
    obtain ⟨same, mem⟩ := accounted.named _ _ found
    exact absurd (distinct same ▸ mem) absent

/-- An agent is stored under its id. -/
theorem insert (accounted : Accounted uuid s) (distinct : uuid.Injective)
    (here : s.rpcs[i]? = some .storing) :
    Accounted uuid ({ s with
      agents := s.agents.insert (uuid i) i
      loggers := s.loggers.insert (uuid i) i
      stored := s.stored ++ [i] }.setRpc i (.releasing (some (uuid i)))) := by
  obtain ⟨absent, fresh⟩ := accounted.unused distinct here
  have inside := (List.getElem?_eq_some_iff.mp here).1
  have counts := countP_set here AgentRpc.reserves (.releasing (some (uuid i)))
  have rooms := countP_set here AgentRpc.isCreating (.releasing (some (uuid i)))
  refine ⟨?_, ?_, ?_, ?_, ?_, ?_, ?_⟩
  · change s.creatingAgents = ((s.rpcs.set i _).countP _ : Nat)
    rw [Nat.add_right_cancel counts]
    exact accounted.counter
  · have before := accounted.room
    have grown : (s.agents.insert (uuid i) i).entries.length = s.agents.entries.length + 1 := by
      rw [AList.entries_insert_of_notMem (AList.lookup_eq_none.mp fresh), List.length_cons]
    change (s.agents.insert (uuid i) i).entries.length + (s.rpcs.set i _).countP _ ≤ s.maxAgents
    simp only [AgentRpc.isCreating, Bool.toNat_true, Bool.toNat_false] at rooms
    omega
  · intro agentId agent found
    change (AList.insert (uuid i) i s.agents).lookup agentId = some agent at found
    rw [Map.lookup_insert_eq] at found
    split at found
    · rename_i same
      cases found
      exact ⟨same, List.mem_append_right _ (List.mem_singleton_self _)⟩
    · obtain ⟨same, mem⟩ := accounted.named _ _ found
      exact ⟨same, List.mem_append_left _ mem⟩
  · intro agentId
    exact (AList.mem_insert _).trans
      ((or_congr_right (accounted.keys agentId)).trans (AList.mem_insert _).symm)
  · intro agent mem
    rw [setRpc, List.length_set]
    rcases List.mem_append.mp mem with old | new
    · exact accounted.bound agent old
    · cases List.mem_singleton.mp new
      exact inside
  · intro j rpc there
    change (s.setRpc i _).rpcs[j]? = some rpc at there
    rw [getElem?_setRpc inside] at there
    split at there
    · rename_i self
      subst self
      cases there
      exact (if_pos (List.mem_append_right _ (List.mem_singleton_self _))).symm
    · rename_i other
      have id := accounted.ids j rpc there
      change rpc.storedId? = if j ∈ s.stored ++ [i] then some (uuid j) else none
      simpa [List.mem_append, Ne.symm other] using id
  · intro agent
    change s.shutdowns.count agent = if agent ∈ s.stored ++ [i] ∧
      (AList.insert (uuid i) i s.agents).lookup (uuid agent) = none then 1 else 0
    rw [accounted.shutdowns agent, Map.lookup_insert_eq]
    by_cases self : agent = i
    · subst self
      simp [absent]
    · simp [self, distinct.ne self]

end Accounted

@[simp] theorem release_setRpc {stored : Option String} :
    (s.setRpc i rpc).release i stored = s.release i stored := by
  cases stored <;> simp [release, setRpc]

@[simp] theorem enterRelease_setRpc {stored : Option String} :
    (s.setRpc i rpc).enterRelease i stored = s.enterRelease i stored := by
  simp only [enterRelease, release_setRpc]
  simp [wait, setRpc]

@[simp] theorem store_setRpc : (s.setRpc i rpc).store i uuid = s.store i uuid :=
  enterRelease_setRpc (s := { s with
    agents := s.agents.insert (uuid i) i
    loggers := s.loggers.insert (uuid i) i
    stored := s.stored ++ [i] })

@[simp] theorem enterStore_setRpc : (s.setRpc i rpc).enterStore i uuid = s.enterStore i uuid := by
  simp only [enterStore, store_setRpc]
  simp [wait, setRpc]

theorem here_setRpc (here : s.rpcs[i]? = some old) : (s.setRpc i new).rpcs[i]? = some new := by
  rw [getElem?_setRpc (List.getElem?_eq_some_iff.mp here).1, if_pos rfl]

namespace Accounted

theorem wait (accounted : Accounted uuid s) (here : s.rpcs[i]? = some old)
    (alike : old.Alike new) : Accounted uuid (s.wait i new) :=
  (accounted.replace here alike).relock _

theorem enterRelease {stored : Option String} (accounted : Accounted uuid s)
    (here : s.rpcs[i]? = some old) (alike : old.Alike (.releasing stored)) :
    Accounted uuid (s.enterRelease i stored) := by
  unfold AgentService.enterRelease
  split
  · rw [← release_setRpc]
    exact (accounted.replace here alike).release (here_setRpc here)
  · exact accounted.wait here alike

theorem store (accounted : Accounted uuid s) (distinct : uuid.Injective)
    (here : s.rpcs[i]? = some old) (alike : old.Alike .storing) :
    Accounted uuid (s.store i uuid) := by
  rw [← @store_setRpc s i uuid .storing]
  have stored := (accounted.replace here alike).insert distinct (here_setRpc here)
  unfold AgentService.store
  rw [← enterRelease_setRpc]
  exact stored.enterRelease (here_setRpc (here_setRpc here)) ⟨rfl, rfl, rfl⟩

theorem enterStore (accounted : Accounted uuid s) (distinct : uuid.Injective)
    (here : s.rpcs[i]? = some old) (alike : old.Alike .storing) :
    Accounted uuid (s.enterStore i uuid) := by
  unfold AgentService.enterStore
  split
  · exact accounted.store distinct here alike
  · exact accounted.wait here alike

/-- A `CreateAgent` with the lock is refused, or it reserves a place and goes on. -/
theorem reserve {call : FactoryCall} (accounted : Accounted uuid s) (distinct : uuid.Injective)
    (here : s.rpcs[i]? = some .reserving) (readable : call ≠ .unreadable) :
    Accounted uuid (s.reserve i uuid call) := by
  unfold AgentService.reserve
  split
  · exact (accounted.relock _).replace here ⟨rfl, rfl, rfl⟩
  · rename_i free
    have begun := accounted.begin here (by omega)
    have there := @here_setRpc _ _ _ .creating here
    cases call with
    | unreadable => exact absurd rfl readable
    | returns =>
      dsimp only
      rw [← enterStore_setRpc]
      exact begun.enterStore distinct there ⟨rfl, rfl, rfl⟩
    | raises =>
      dsimp only
      rw [← enterRelease_setRpc]
      exact begun.enterRelease there ⟨rfl, rfl, rfl⟩
    | awaits => exact begun

/-- An agent is taken out of the tables and shut down. -/
theorem pop {agentId : String} (accounted : Accounted uuid s) (distinct : uuid.Injective)
    (here : s.rpcs[i]? = some (.popping agentId)) : Accounted uuid (s.pop i agentId) := by
  have keys : ∀ other, other ∈ s.agents.erase agentId ↔ other ∈ s.loggers.erase agentId :=
    fun other => AList.mem_erase.trans
      ((and_congr_right fun _ => accounted.keys other).trans AList.mem_erase.symm)
  have named : ∀ other agent, (s.agents.erase agentId).lookup other = some agent →
      other = uuid agent ∧ agent ∈ s.stored := by
    intro other agent found
    rw [Map.lookup_erase_eq] at found
    split at found
    · cases found
    · exact accounted.named other agent found
  have room : (s.agents.erase agentId).entries.length + s.rpcs.countP AgentRpc.isCreating ≤
      s.maxAgents :=
    Nat.le_trans (Nat.add_le_add_right (List.kerase_sublist agentId s.agents.entries).length_le _)
      accounted.room
  unfold AgentService.pop
  cases found : s.agents.lookup agentId with
  | none =>
    have erased : Accounted uuid { s with
        agents := s.agents.erase agentId, loggers := s.loggers.erase agentId } := by
      refine ⟨accounted.counter, room, named, keys, accounted.bound, accounted.ids, fun agent => ?_⟩
      rw [accounted.shutdowns agent, Map.lookup_erase_eq]
      by_cases same : uuid agent = agentId
      · rw [if_pos same, same, found]
      · rw [if_neg same]
    exact erased.replace here ⟨rfl, rfl, rfl⟩
  | some agent =>
    obtain ⟨rfl, stored⟩ := accounted.named _ _ found
    have stopped : Accounted uuid { s with
        agents := s.agents.erase (uuid agent), loggers := s.loggers.erase (uuid agent)
        shutdowns := s.shutdowns ++ [agent] } := by
      refine ⟨accounted.counter, room, named, keys, accounted.bound, accounted.ids, fun other => ?_⟩
      rw [List.count_append, accounted.shutdowns other, Map.lookup_erase_eq]
      by_cases self : other = agent
      · subst self
        simp [found, stored]
      · simp [distinct.ne self, Ne.symm self]
    exact stopped.replace here ⟨rfl, rfl, rfl⟩

theorem arrive (accounted : Accounted uuid s) (reserves : rpc.reserves = false)
    (creating : rpc.isCreating = false) (stored : rpc.storedId? = none) :
    Accounted uuid (s.arrive rpc) where
  counter := by
    change s.creatingAgents = ((s.rpcs ++ [rpc]).countP _ : Nat)
    rw [List.countP_append, List.countP_singleton, reserves]
    exact accounted.counter
  room := by
    change s.agents.entries.length + (s.rpcs ++ [rpc]).countP _ ≤ s.maxAgents
    rw [List.countP_append, List.countP_singleton, creating]
    exact accounted.room
  named := accounted.named
  keys := accounted.keys
  bound agent mem := by
    rw [AgentService.arrive, List.length_append]
    exact Nat.lt_add_right _ (accounted.bound agent mem)
  ids j rpc' there := by
    rw [AgentService.arrive, List.getElem?_append] at there
    split at there
    · exact accounted.ids j rpc' there
    · rename_i outside
      cases List.mem_singleton.mp (List.mem_of_getElem? there)
      have absent : j ∉ s.stored := fun mem => outside (accounted.bound j mem)
      exact stored.trans (if_neg absent).symm
  shutdowns := accounted.shutdowns

end Accounted

theorem here_arrive : (s.arrive rpc).rpcs[s.rpcs.length]? = some rpc := by
  simp [arrive]

/--
No reservation is lost: the settings of a request with a reserved place can be read, and no RPC is
cancelled while it waits for the lock in `finally`.
-/
def Kept (s : AgentService) : AgentServiceAction → Prop
  | .create _ call | .resume call => call ≠ .unreadable
  | .cancel i => ∀ stored, s.rpcs[i]? ≠ some (.releasing stored)
  | _ => True

namespace Accounted

theorem cancelled {t : AgentService} (accounted : Accounted uuid s)
    (here : s.rpcs[i]? = some rpc) (kept : ∀ stored, rpc ≠ .releasing stored)
    (cancels : s.cancelled i rpc = some t) : Accounted uuid t := by
  cases rpc with
  | releasing stored => exact absurd rfl (kept stored)
  | creating =>
    cases cancels
    exact accounted.enterRelease here ⟨rfl, rfl, rfl⟩
  | storing =>
    cases cancels
    exact (accounted.relock _).enterRelease here ⟨rfl, rfl, rfl⟩
  | rejecting | stopping =>
    cases cancels
    exact accounted.replace here ⟨rfl, rfl, rfl⟩
  | reserving | refusing | popping =>
    cases cancels
    exact (accounted.relock _).replace here ⟨rfl, rfl, rfl⟩
  | returned | failed | ended => cases cancels

theorem resumed {call : FactoryCall} {t : AgentService} (accounted : Accounted uuid s)
    (distinct : uuid.Injective) (here : s.rpcs[i]? = some rpc) (readable : call ≠ .unreadable)
    (resumes : s.resumed i uuid call rpc = some t) : Accounted uuid t := by
  cases rpc with
  | reserving =>
    cases resumes
    exact accounted.reserve distinct here readable
  | storing =>
    cases resumes
    exact accounted.store distinct here ⟨rfl, rfl, rfl⟩
  | releasing stored =>
    cases resumes
    exact accounted.release here
  | popping agentId =>
    cases resumes
    exact accounted.pop distinct here
  | _ => cases resumes

/-- One step keeps the accounts. -/
theorem step {action : AgentServiceAction} {t : AgentService} (accounted : Accounted uuid s)
    (distinct : uuid.Injective) (kept : Kept s action)
    (step : s.step uuid action = some t) : Accounted uuid t := by
  cases action with
  | create admitted call =>
    cases admitted with
    | false =>
      cases step
      exact accounted.arrive rfl rfl rfl
    | true =>
      cases step
      have arrived : Accounted uuid (s.arrive .reserving) := accounted.arrive rfl rfl rfl
      split
      · exact arrived.reserve distinct here_arrive kept
      · exact arrived.wait here_arrive ⟨rfl, rfl, rfl⟩
  | shutdown admitted agentId =>
    cases admitted with
    | false =>
      cases step
      exact accounted.arrive rfl rfl rfl
    | true =>
      cases step
      have arrived : Accounted uuid (s.arrive (.popping agentId)) := accounted.arrive rfl rfl rfl
      split
      · exact arrived.pop distinct here_arrive
      · exact arrived.wait here_arrive ⟨rfl, rfl, rfl⟩
  | resume call =>
    obtain ⟨⟨i, agentLock⟩, -, step⟩ := Option.bind_eq_some_iff.mp step
    obtain ⟨rpc, here, step⟩ := Option.bind_eq_some_iff.mp step
    exact (accounted.relock agentLock).resumed distinct here kept step
  | aborted i =>
    simp only [AgentService.step] at step
    split at step
    · rename_i here
      cases step
      exact accounted.replace here ⟨rfl, rfl, rfl⟩
    · rename_i here
      cases step
      exact (accounted.relock _).replace here ⟨rfl, rfl, rfl⟩
    · cases step
  | created i ok =>
    simp only [AgentService.step] at step
    split at step
    · rename_i here
      cases step
      split
      · exact accounted.enterStore distinct here ⟨rfl, rfl, rfl⟩
      · exact accounted.enterRelease here ⟨rfl, rfl, rfl⟩
    · cases step
  | stopped i =>
    simp only [AgentService.step] at step
    split at step
    · rename_i here
      cases step
      exact accounted.replace here ⟨rfl, rfl, rfl⟩
    · cases step
  | cancel i =>
    obtain ⟨rpc, here, step⟩ := Option.bind_eq_some_iff.mp step
    exact accounted.cancelled here (fun stored same => kept stored (same ▸ here)) step

theorem initial (maxAgents : Nat) : Accounted uuid { maxAgents } where
  counter := rfl
  room := Nat.zero_le _
  named _ _ found := by cases found
  keys _ := Iff.rfl
  bound _ mem := by cases mem
  ids _ _ there := by cases there
  shutdowns agent := by simp

end Accounted

/-- What the service promises, some of it only where no RPC is in progress. -/
structure Promises (s : AgentService) : Prop where
  capacity : s.agents.entries.length + s.rpcs.countP AgentRpc.isCreating ≤ s.maxAgents
  counter : (∀ rpc ∈ s.rpcs, rpc.isOver = true) → s.creatingAgents = 0
  returned : (∀ rpc ∈ s.rpcs, rpc.isOver = true) → ∀ agentId agent,
    s.agents.lookup agentId = some agent → s.rpcs[agent]? = some (.returned agentId)
  keys : ∀ agentId, agentId ∈ s.agents ↔ agentId ∈ s.loggers
  shutdowns : ∀ agent, s.shutdowns.count agent =
    if agent ∈ s.stored ∧ agent ∉ s.agents.values then 1 else 0

theorem Accounted.promises (accounted : Accounted uuid s) (distinct : uuid.Injective) :
    Promises s where
  capacity := accounted.room
  counter idle := by
    rw [accounted.counter, List.countP_eq_zero.mpr]
    · rfl
    · intro rpc mem reserves
      have finished := idle rpc mem
      cases rpc with
      | creating | storing | releasing => cases finished
      | _ => cases reserves
  returned idle agentId agent found := by
    obtain ⟨rfl, stored⟩ := accounted.named _ _ found
    obtain ⟨rpc, here⟩ : ∃ rpc, s.rpcs[agent]? = some rpc :=
      ⟨_, List.getElem?_eq_getElem (accounted.bound agent stored)⟩
    have finished := idle _ (List.mem_of_getElem? here)
    have id := accounted.ids agent _ here
    rw [if_pos stored] at id
    rw [here]
    cases rpc with
    | returned agentId => exact congrArg (some ∘ AgentRpc.returned) (Option.some.inj id)
    | releasing => cases finished
    | _ => cases id
  keys := accounted.keys
  shutdowns agent := by
    rw [accounted.shutdowns agent]
    have absent : s.agents.lookup (uuid agent) = none ↔ agent ∉ s.agents.values := by
      rw [Map.mem_values, ← Option.not_isSome_iff_eq_none, not_iff_not, Option.isSome_iff_exists]
      constructor
      · rintro ⟨other, found⟩
        obtain ⟨same, -⟩ := accounted.named _ _ found
        exact ⟨uuid agent, distinct same ▸ found⟩
      · rintro ⟨agentId, found⟩
        obtain ⟨rfl, -⟩ := accounted.named _ _ found
        exact ⟨agent, found⟩
    simp only [absent]

/--
As long as no reservation is lost, the service keeps its promises, whatever else its RPCs do and in
whatever order.
-/
theorem agent_service_promises {maxAgents : Nat} (distinct : uuid.Injective)
    (run : (agentServiceMachine uuid).Run Kept { maxAgents } s) : Promises s := by
  have accounted : Accounted uuid s := by
    refine run.invariant (Accounted.initial maxAgents) ?_
    intro t u action accounted kept step
    exact accounted.step distinct kept step
  exact accounted.promises distinct

/-- Ids of different lengths. -/
def longId (i : Nat) : String := String.ofList (List.replicate i 'a')

theorem longId_injective : longId.Injective := by
  intro i j same
  have lengths := congrArg (fun text : String => text.toList.length) same
  simpa [longId] using lengths

/-- An agent is created while another request waits, and one that fails is cleaned up. -/
def oneAgent : List AgentServiceAction :=
  [.create true .awaits, .created 0 true, .create true .raises, .shutdown true (longId 0),
    .stopped 2, .create true .returns]

theorem agent_service_promises_oneAgent : ∃ s,
    (agentServiceMachine longId).exec { maxAgents := 2 } oneAgent = some s ∧ Promises s ∧
      s.shutdowns = [0] := by
  obtain ⟨s, ran⟩ : ∃ s, ((agentServiceMachine longId).restrict fun _ action =>
      match action with
      | .create _ call | .resume call => call ≠ .unreadable
      | .cancel _ => false
      | _ => true).exec { maxAgents := 2 } oneAgent = some s := ⟨_, rfl⟩
  have run : (agentServiceMachine longId).Run Kept { maxAgents := 2 } s := by
    refine Machine.Run.of_exec (fun s action passed => ?_) ran
    cases action with
    | create admitted call => exact (by simpa using passed : call ≠ .unreadable)
    | resume call => exact (by simpa using passed : call ≠ .unreadable)
    | cancel i => cases passed
    | _ => trivial
  cases ran
  exact ⟨_, rfl, agent_service_promises longId_injective run, rfl⟩

/-- The lock is held by a refusal when the place of a failed creation should be given up. -/
def cancelledInFinally : List AgentServiceAction :=
  [.create true .awaits, .create true .returns, .created 0 false, .cancel 0, .aborted 1]

/-- No agent is there and no RPC is in progress, but the only place is taken for ever. -/
theorem capacity_lost : ∃ s,
    (agentServiceMachine longId).Run Machine.unguarded { maxAgents := 1 } s ∧ ¬Promises s := by
  obtain ⟨s, ran⟩ : ∃ s, (agentServiceMachine longId).exec { maxAgents := 1 } cancelledInFinally =
    some s := ⟨_, rfl⟩
  refine ⟨s, .of_exec_unguarded ran, fun promises => ?_⟩
  cases ran
  have counter := promises.counter (by decide)
  cases counter

end AgentService

end Parlando
