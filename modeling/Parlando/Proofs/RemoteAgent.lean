import Parlando.Proofs.AgentService
import Parlando.RemoteAgent

namespace Parlando

open Concurrency

namespace AgentRpc

/-- The ids that an RPC holds. -/
def Holds (uuid : Nat → String) (asked : List Nat) (i : Nat) : AgentRpc → Prop
  | releasing (some agentId) | returned agentId => agentId = uuid i
  | popping agentId => ∃ j ∈ asked, agentId = uuid j
  | _ => True

def Parts (uuid : Nat → String) (i : Nat) : AgentRpc → Prop
  | popping agentId => agentId = uuid i
  | stopping logger => ∀ j ∈ logger, j = i
  | rejecting | failed | ended => True
  | _ => False

def isLate : AgentRpc → Bool
  | releasing (some _) | returned _ | failed => true
  | _ => false

end AgentRpc

namespace AgentService

variable {s t : AgentService} {i : Nat} {uuid : Nat → String} {asked : List Nat}
  {rpc old new : AgentRpc}

/-- Whatever is cancelled: agents are stored under ids of their own, one shutdown at most is called
on each, and none that was not asked for. -/
structure Registered (uuid : Nat → String) (asked : List Nat) (s : AgentService) : Prop where
  agents : ∀ agentId j, s.agents.lookup agentId = some j → agentId = uuid j ∧ j ∈ s.stored
  loggers : ∀ agentId j, s.loggers.lookup agentId = some j → agentId = uuid j
  rpcs : ∀ (i : Nat) (rpc : AgentRpc), s.rpcs[i]? = some rpc → rpc.Holds uuid asked i
  stored : ∀ i ∈ s.stored, ∃ rpc, s.rpcs[i]? = some rpc ∧ rpc.isLate = true
  once : ∀ j, s.shutdowns.count j ≤ 1
  shutdowns : ∀ j ∈ s.shutdowns, j ∈ asked ∧ j ∈ s.stored ∧ s.agents.lookup (uuid j) = none

namespace Registered

theorem relock (registered : Registered uuid asked s) (agentLock : FairLock Nat) :
    Registered uuid asked { s with agentLock } :=
  ⟨registered.agents, registered.loggers, registered.rpcs, registered.stored, registered.once,
    registered.shutdowns⟩

theorem not_stored (registered : Registered uuid asked s) (here : s.rpcs[i]? = some old)
    (early : old.isLate = false) : i ∉ s.stored := by
  intro mem
  obtain ⟨rpc, there, late⟩ := registered.stored i mem
  rw [here] at there
  cases there
  rw [early] at late
  cases late

theorem replace (registered : Registered uuid asked s) (here : s.rpcs[i]? = some old)
    (holds : new.Holds uuid asked i) (late : i ∈ s.stored → new.isLate = true) :
    Registered uuid asked (s.setRpc i new) where
  agents := registered.agents
  loggers := registered.loggers
  rpcs j rpc there := by
    rw [getElem?_setRpc (List.getElem?_eq_some_iff.mp here).1] at there
    split at there
    · rename_i self
      subst self
      cases there
      exact holds
    · exact registered.rpcs j rpc there
  stored j mem := by
    rw [getElem?_setRpc (List.getElem?_eq_some_iff.mp here).1]
    split
    · rename_i self
      subst self
      exact ⟨new, rfl, late mem⟩
    · exact registered.stored j mem
  once := registered.once
  shutdowns := registered.shutdowns

/-- An RPC that has not stored an agent goes on. -/
theorem advance (registered : Registered uuid asked s) (here : s.rpcs[i]? = some old)
    (early : old.isLate = false) (holds : new.Holds uuid asked i) :
    Registered uuid asked (s.setRpc i new) :=
  registered.replace here holds fun mem => absurd mem (registered.not_stored here early)

theorem wait (registered : Registered uuid asked s) (here : s.rpcs[i]? = some old)
    (holds : new.Holds uuid asked i) (late : i ∈ s.stored → new.isLate = true) :
    Registered uuid asked (s.wait i new) :=
  (registered.replace here holds late).relock _

/-- An RPC that has not stored an agent waits for the lock. -/
theorem queue (registered : Registered uuid asked s) (here : s.rpcs[i]? = some old)
    (early : old.isLate = false) (holds : new.Holds uuid asked i) :
    Registered uuid asked (s.wait i new) :=
  registered.wait here holds fun mem => absurd mem (registered.not_stored here early)

theorem recount (registered : Registered uuid asked s) (creatingAgents : Int) :
    Registered uuid asked { s with creatingAgents } :=
  ⟨registered.agents, registered.loggers, registered.rpcs, registered.stored, registered.once,
    registered.shutdowns⟩

theorem release {stored : Option String} (registered : Registered uuid asked s)
    (here : s.rpcs[i]? = some old) (named : ∀ agentId, stored = some agentId → agentId = uuid i) :
    Registered uuid asked (s.release i stored) := by
  have counted := registered.recount (s.creatingAgents - 1)
  cases stored with
  | none => exact counted.replace here trivial fun _ => rfl
  | some agentId => exact counted.replace here (named agentId rfl) fun _ => rfl

theorem enterRelease {stored : Option String} (registered : Registered uuid asked s)
    (here : s.rpcs[i]? = some old) (named : ∀ agentId, stored = some agentId → agentId = uuid i)
    (kept : i ∈ s.stored → stored.isSome = true) :
    Registered uuid asked (s.enterRelease i stored) := by
  unfold AgentService.enterRelease
  split
  · exact registered.release here named
  · cases stored with
    | none => exact registered.wait here trivial fun mem => absurd (kept mem) (by simp)
    | some agentId => exact registered.wait here (named agentId rfl) fun _ => rfl

/-- An agent is stored under the id that was drawn for it. -/
theorem insert (registered : Registered uuid asked s) (distinct : uuid.Injective)
    (here : s.rpcs[i]? = some old) (early : old.isLate = false) :
    Registered uuid asked ({ s with
      agents := s.agents.insert (uuid i) i
      loggers := s.loggers.insert (uuid i) i
      stored := s.stored ++ [i] }.setRpc i (.releasing (some (uuid i)))) := by
  have absent := registered.not_stored here early
  have inside := (List.getElem?_eq_some_iff.mp here).1
  refine ⟨?_, ?_, ?_, ?_, registered.once, ?_⟩
  · intro agentId j found
    change (AList.insert (uuid i) i s.agents).lookup agentId = some j at found
    rw [Map.lookup_insert_eq] at found
    split at found
    · rename_i same
      cases found
      exact ⟨same, List.mem_append_right _ (List.mem_singleton_self _)⟩
    · obtain ⟨same, mem⟩ := registered.agents _ _ found
      exact ⟨same, List.mem_append_left _ mem⟩
  · intro agentId j found
    change (AList.insert (uuid i) i s.loggers).lookup agentId = some j at found
    rw [Map.lookup_insert_eq] at found
    split at found
    · rename_i same
      cases found
      exact same
    · exact registered.loggers _ _ found
  · intro j rpc there
    change (s.setRpc i _).rpcs[j]? = some rpc at there
    rw [getElem?_setRpc inside] at there
    split at there
    · rename_i self
      subst self
      cases there
      rfl
    · exact registered.rpcs j rpc there
  · intro j mem
    change ∃ rpc, (s.setRpc i _).rpcs[j]? = some rpc ∧ _
    rw [getElem?_setRpc inside]
    split
    · exact ⟨_, rfl, rfl⟩
    · rename_i other
      rcases List.mem_append.mp mem with mem | mem
      · exact registered.stored j mem
      · exact absurd (List.mem_singleton.mp mem).symm other
  · intro j mem
    obtain ⟨wanted, stored, gone⟩ := registered.shutdowns j mem
    have other : uuid j ≠ uuid i := by
      intro same
      exact absent (distinct same ▸ stored)
    refine ⟨wanted, List.mem_append_left _ stored, ?_⟩
    change (AList.insert (uuid i) i s.agents).lookup (uuid j) = none
    rw [Map.lookup_insert_eq, if_neg other]
    exact gone

theorem store (registered : Registered uuid asked s) (distinct : uuid.Injective)
    (here : s.rpcs[i]? = some old) (early : old.isLate = false) :
    Registered uuid asked (s.store i uuid) := by
  have stored := registered.insert distinct here early
  unfold AgentService.store
  rw [← enterRelease_setRpc]
  refine stored.enterRelease (here_setRpc here) (fun agentId same => ?_) fun _ => rfl
  cases same
  rfl

theorem enterStore (registered : Registered uuid asked s) (distinct : uuid.Injective)
    (here : s.rpcs[i]? = some old) (early : old.isLate = false) :
    Registered uuid asked (s.enterStore i uuid) := by
  unfold AgentService.enterStore
  split
  · exact registered.store distinct here early
  · exact registered.queue here early trivial

theorem reserve {call : FactoryCall} (registered : Registered uuid asked s)
    (distinct : uuid.Injective) (here : s.rpcs[i]? = some old) (early : old.isLate = false) :
    Registered uuid asked (s.reserve i uuid call) := by
  have fresh := registered.not_stored here early
  unfold AgentService.reserve
  split
  · exact (registered.relock _).advance here early trivial
  · have counted := registered.recount (s.creatingAgents + 1)
    cases call with
    | unreadable => exact counted.advance here early trivial
    | returns => exact counted.enterStore distinct here early
    | raises =>
      exact counted.enterRelease here (fun _ named => by cases named) fun mem => absurd mem fresh
    | awaits => exact counted.advance here early trivial

/-- An agent is taken out of the tables and shut down. -/
theorem pop {agentId : String} (registered : Registered uuid asked s) (distinct : uuid.Injective)
    (here : s.rpcs[i]? = some (.popping agentId)) : Registered uuid asked (s.pop i agentId) := by
  obtain ⟨wanted, mem, same⟩ := registered.rpcs i _ here
  have erased : Registered uuid asked { s with
      agents := s.agents.erase agentId, loggers := s.loggers.erase agentId } := by
    refine ⟨fun other j found => ?_, fun other j found => ?_, registered.rpcs, registered.stored,
      registered.once, fun j mem => ?_⟩
    · change (s.agents.erase agentId).lookup other = some j at found
      rw [Map.lookup_erase_eq] at found
      split at found
      · cases found
      · exact registered.agents other j found
    · change (s.loggers.erase agentId).lookup other = some j at found
      rw [Map.lookup_erase_eq] at found
      split at found
      · cases found
      · exact registered.loggers other j found
    · obtain ⟨wanted, stored, gone⟩ := registered.shutdowns j mem
      refine ⟨wanted, stored, ?_⟩
      change (s.agents.erase agentId).lookup (uuid j) = none
      rw [Map.lookup_erase_eq, gone, ite_self]
  unfold AgentService.pop
  cases found : s.agents.lookup agentId with
  | none => exact erased.advance here rfl trivial
  | some agent =>
    obtain ⟨named, stored⟩ := registered.agents _ _ found
    have own : agent = wanted := distinct (named.symm.trans same)
    have running : agent ∉ s.shutdowns := by
      intro ended
      have gone := (registered.shutdowns agent ended).2.2
      rw [← named, found] at gone
      cases gone
    have stopped : Registered uuid asked { s with
        agents := s.agents.erase agentId, loggers := s.loggers.erase agentId
        shutdowns := s.shutdowns ++ [agent] } := by
      refine ⟨erased.agents, erased.loggers, erased.rpcs, erased.stored, fun j => ?_,
        fun j ended => ?_⟩
      · have before := registered.once j
        rw [List.count_append, List.count_singleton]
        split
        · rename_i self
          rw [List.count_eq_zero.mpr (beq_iff_eq.mp self ▸ running)]
        · exact before
      · rcases List.mem_append.mp ended with before | self
        · exact erased.shutdowns j before
        · rw [List.mem_singleton.mp self]
          refine ⟨own ▸ mem, stored, ?_⟩
          change (s.agents.erase agentId).lookup (uuid agent) = none
          rw [Map.lookup_erase_eq, if_pos named.symm]
    exact stopped.advance here rfl trivial

theorem arrive (registered : Registered uuid asked s)
    (holds : rpc.Holds uuid asked s.rpcs.length) : Registered uuid asked (s.arrive rpc) where
  agents := registered.agents
  loggers := registered.loggers
  rpcs j rpc' there := by
    rw [AgentService.arrive, List.getElem?_append] at there
    split at there
    · exact registered.rpcs j rpc' there
    · rename_i outside
      obtain ⟨inside, same⟩ := List.getElem?_eq_some_iff.mp there
      rw [List.length_singleton, Nat.lt_one_iff] at inside
      have last : j = s.rpcs.length := by omega
      subst last
      rw [List.getElem_singleton] at same
      exact same ▸ holds
  stored j mem := by
    obtain ⟨rpc', there, late⟩ := registered.stored j mem
    refine ⟨rpc', ?_, late⟩
    rw [AgentService.arrive, List.getElem?_append_left (List.getElem?_eq_some_iff.mp there).1]
    exact there
  once := registered.once
  shutdowns := registered.shutdowns

theorem mono (registered : Registered uuid asked s) {more : List Nat} (grown : asked ⊆ more) :
    Registered uuid more s where
  agents := registered.agents
  loggers := registered.loggers
  rpcs i rpc there := by
    have holds := registered.rpcs i rpc there
    cases rpc with
    | popping agentId =>
      obtain ⟨j, mem, same⟩ := holds
      exact ⟨j, grown mem, same⟩
    | releasing stored => cases stored <;> exact holds
    | _ => exact holds
  stored := registered.stored
  once := registered.once
  shutdowns j mem := (registered.shutdowns j mem).imp_left (grown ·)

theorem cancelled (registered : Registered uuid asked s) (here : s.rpcs[i]? = some rpc)
    (cancels : s.cancelled i rpc = some t) : Registered uuid asked t := by
  cases rpc with
  | creating =>
    cases cancels
    exact registered.enterRelease here (fun _ named => by cases named)
      fun mem => absurd mem (registered.not_stored here rfl)
  | storing =>
    cases cancels
    exact (registered.relock _).enterRelease here (fun _ named => by cases named)
      fun mem => absurd mem (registered.not_stored here rfl)
  | releasing stored =>
    cases cancels
    exact (registered.relock _).replace here trivial fun _ => rfl
  | rejecting | stopping =>
    cases cancels
    exact registered.advance here rfl trivial
  | reserving | refusing | popping =>
    cases cancels
    exact (registered.relock _).advance here rfl trivial
  | returned | failed | ended => cases cancels

theorem resumed {call : FactoryCall} (registered : Registered uuid asked s)
    (distinct : uuid.Injective) (here : s.rpcs[i]? = some rpc)
    (resumes : s.resumed i uuid call rpc = some t) : Registered uuid asked t := by
  cases rpc with
  | reserving =>
    cases resumes
    exact registered.reserve distinct here rfl
  | storing =>
    cases resumes
    exact registered.store distinct here rfl
  | releasing stored =>
    cases resumes
    refine registered.release here fun agentId same => ?_
    subst same
    exact registered.rpcs i _ here
  | popping agentId =>
    cases resumes
    exact registered.pop distinct here
  | _ => cases resumes

/-- One step keeps the tables, whoever is cancelled, if a shutdown is of an agent asked for. -/
theorem step {action : AgentServiceAction} (registered : Registered uuid asked s)
    (distinct : uuid.Injective)
    (wanted : ∀ admitted agentId, action = .shutdown admitted agentId →
      ∃ j ∈ asked, agentId = uuid j)
    (step : s.step uuid action = some t) : Registered uuid asked t := by
  cases action with
  | create admitted call =>
    cases admitted with
    | false =>
      cases step
      exact registered.arrive trivial
    | true =>
      cases step
      have arrived : Registered uuid asked (s.arrive .reserving) := registered.arrive trivial
      split
      · exact arrived.reserve distinct here_arrive rfl
      · exact arrived.queue here_arrive rfl trivial
  | shutdown admitted agentId =>
    cases admitted with
    | false =>
      cases step
      exact registered.arrive trivial
    | true =>
      cases step
      have asking := wanted true agentId rfl
      have arrived : Registered uuid asked (s.arrive (.popping agentId)) := registered.arrive asking
      split
      · exact arrived.pop distinct here_arrive
      · exact arrived.queue here_arrive rfl asking
  | resume call =>
    obtain ⟨⟨i, agentLock⟩, -, step⟩ := Option.bind_eq_some_iff.mp step
    obtain ⟨rpc, here, step⟩ := Option.bind_eq_some_iff.mp step
    exact (registered.relock agentLock).resumed distinct here step
  | aborted i =>
    simp only [AgentService.step] at step
    split at step
    · rename_i here
      cases step
      exact registered.advance here rfl trivial
    · rename_i here
      cases step
      exact (registered.relock _).advance here rfl trivial
    · cases step
  | created i ok =>
    simp only [AgentService.step] at step
    split at step
    · rename_i here
      cases step
      split
      · exact registered.enterStore distinct here rfl
      · exact registered.enterRelease here (fun _ named => by cases named)
          fun mem => absurd mem (registered.not_stored here rfl)
    · cases step
  | stopped i =>
    simp only [AgentService.step] at step
    split at step
    · rename_i here
      cases step
      exact registered.advance here rfl trivial
    · cases step
  | cancel i =>
    obtain ⟨rpc, here, step⟩ := Option.bind_eq_some_iff.mp step
    exact registered.cancelled here step

end Registered

/-- What is over stays over. -/
structure Settled (s t : AgentService) : Prop where
  finished : ∀ (i : Nat) (rpc : AgentRpc), s.rpcs[i]? = some rpc → rpc.isOver = true →
    t.rpcs[i]? = some rpc
  length : s.rpcs.length ≤ t.rpcs.length

theorem Settled.refl (s : AgentService) : Settled s s :=
  ⟨fun _ _ here _ => here, Nat.le_refl _⟩

theorem Settled.trans {u : AgentService} (first : Settled s t) (second : Settled t u) :
    Settled s u :=
  ⟨fun i rpc here finished => second.finished i rpc (first.finished i rpc here finished) finished,
    Nat.le_trans first.length second.length⟩

def Moves (i : Nat) (s t : AgentService) : Prop := ∃ rpc, t.rpcs = s.rpcs.set i rpc

theorem Moves.settled (moves : Moves i s t) (here : s.rpcs[i]? = some old)
    (live : old.isOver = false) : Settled s t := by
  obtain ⟨rpc, same⟩ := moves
  refine ⟨fun j rpc' there finished => ?_, by rw [same, List.length_set]⟩
  rw [same, List.getElem?_set]
  split
  · rename_i self
    subst self
    rw [here] at there
    cases there
    rw [live] at finished
    cases finished
  · exact there

theorem moves_release {stored : Option String} : Moves i s (s.release i stored) := ⟨_, rfl⟩

theorem moves_wait : Moves i s (s.wait i rpc) := ⟨_, rfl⟩

theorem moves_enterRelease {stored : Option String} : Moves i s (s.enterRelease i stored) := by
  unfold enterRelease
  split
  · exact moves_release
  · exact moves_wait

theorem moves_store : Moves i s (s.store i uuid) :=
  moves_enterRelease (s := { s with
    agents := s.agents.insert (uuid i) i
    loggers := s.loggers.insert (uuid i) i
    stored := s.stored ++ [i] })

theorem moves_enterStore : Moves i s (s.enterStore i uuid) := by
  unfold enterStore
  split
  · exact moves_store
  · exact moves_wait

theorem moves_reserve {call : FactoryCall} : Moves i s (s.reserve i uuid call) := by
  unfold reserve
  split
  · exact ⟨_, rfl⟩
  · cases call with
    | unreadable => exact ⟨_, rfl⟩
    | returns => exact moves_enterStore (s := { s with creatingAgents := s.creatingAgents + 1 })
    | raises => exact moves_enterRelease (s := { s with creatingAgents := s.creatingAgents + 1 })
    | awaits => exact ⟨_, rfl⟩

theorem moves_pop {agentId : String} : Moves i s (s.pop i agentId) := by
  unfold pop
  split <;> exact ⟨_, rfl⟩

theorem moves_cancelled (cancels : s.cancelled i rpc = some t) :
    Moves i s t ∧ rpc.isOver = false := by
  cases rpc with
  | returned | failed | ended => cases cancels
  | creating =>
    cases cancels
    exact ⟨moves_enterRelease, rfl⟩
  | storing =>
    cases cancels
    exact ⟨moves_enterRelease (s := { s with agentLock := s.agentLock.abandon i }), rfl⟩
  | rejecting | reserving | refusing | releasing | popping | stopping =>
    cases cancels
    exact ⟨⟨_, rfl⟩, rfl⟩

theorem moves_resumed {call : FactoryCall} (resumes : s.resumed i uuid call rpc = some t) :
    Moves i s t ∧ rpc.isOver = false := by
  cases rpc with
  | reserving =>
    cases resumes
    exact ⟨moves_reserve, rfl⟩
  | storing =>
    cases resumes
    exact ⟨moves_store, rfl⟩
  | releasing stored =>
    cases resumes
    exact ⟨moves_release, rfl⟩
  | popping agentId =>
    cases resumes
    exact ⟨moves_pop, rfl⟩
  | _ => cases resumes

theorem Moves.arrived (moves : Moves s.rpcs.length (s.arrive rpc) t) :
    ∃ new, t.rpcs = s.rpcs ++ [new] := by
  obtain ⟨new, same⟩ := moves
  refine ⟨new, ?_⟩
  rw [same, arrive, List.set_append_right _ _ (Nat.le_refl _), Nat.sub_self, List.set_cons_zero]

theorem create_arrives {admitted : Bool} {call : FactoryCall}
    (step : s.step uuid (.create admitted call) = some t) : ∃ new, t.rpcs = s.rpcs ++ [new] := by
  cases admitted with
  | false =>
    cases step
    exact ⟨.rejecting, rfl⟩
  | true =>
    cases step
    split
    · exact (moves_reserve : Moves _ (s.arrive .reserving) _).arrived
    · exact (moves_wait : Moves _ (s.arrive .reserving) _).arrived

theorem shutdown_arrives {admitted : Bool} {agentId : String}
    (step : s.step uuid (.shutdown admitted agentId) = some t) :
    ∃ new, t.rpcs = s.rpcs ++ [new] := by
  cases admitted with
  | false =>
    cases step
    exact ⟨.rejecting, rfl⟩
  | true =>
    cases step
    split
    · exact (moves_pop : Moves _ (s.arrive (.popping agentId)) _).arrived
    · exact (moves_wait : Moves _ (s.arrive (.popping agentId)) _).arrived

/-- A step begins an RPC or moves one that is not over. -/
theorem step_moves {action : AgentServiceAction} (step : s.step uuid action = some t) :
    (∃ new, t.rpcs = s.rpcs ++ [new]) ∨
      ∃ i rpc, s.rpcs[i]? = some rpc ∧ rpc.isOver = false ∧ Moves i s t := by
  cases action with
  | create admitted call => exact .inl (create_arrives step)
  | shutdown admitted agentId => exact .inl (shutdown_arrives step)
  | resume call =>
    right
    obtain ⟨⟨i, agentLock⟩, -, step⟩ := Option.bind_eq_some_iff.mp step
    obtain ⟨rpc, here, step⟩ := Option.bind_eq_some_iff.mp step
    obtain ⟨moves, live⟩ := moves_resumed (s := { s with agentLock }) step
    exact ⟨i, rpc, here, live, moves⟩
  | aborted i =>
    right
    simp only [AgentService.step] at step
    split at step
    · rename_i here
      cases step
      exact ⟨i, _, here, rfl, _, rfl⟩
    · rename_i here
      cases step
      exact ⟨i, _, here, rfl, _, rfl⟩
    · cases step
  | created i ok =>
    right
    simp only [AgentService.step] at step
    split at step
    · rename_i here
      cases step
      refine ⟨i, _, here, rfl, ?_⟩
      split
      · exact moves_enterStore
      · exact moves_enterRelease
    · cases step
  | stopped i =>
    right
    simp only [AgentService.step] at step
    split at step
    · rename_i here
      cases step
      exact ⟨i, _, here, rfl, _, rfl⟩
    · cases step
  | cancel i =>
    right
    obtain ⟨rpc, here, step⟩ := Option.bind_eq_some_iff.mp step
    obtain ⟨moves, live⟩ := moves_cancelled step
    exact ⟨i, rpc, here, live, moves⟩

theorem step_settled {action : AgentServiceAction} (step : s.step uuid action = some t) :
    Settled s t := by
  rcases step_moves step with ⟨new, grown⟩ | ⟨i, rpc, here, live, moves⟩
  · refine ⟨fun i rpc here finished => ?_, ?_⟩
    · rw [grown, List.getElem?_append_left (List.getElem?_eq_some_iff.mp here).1]
      exact here
    · rw [grown, List.length_append]
      exact Nat.le_add_right ..
  · exact moves.settled here live

def Parted (uuid : Nat → String) (s t : AgentService) : Prop :=
  ∀ (i j : Nat) (rpc : AgentRpc), s.rpcs[i]? = some rpc → rpc.Parts uuid j →
    ∃ new, t.rpcs[i]? = some new ∧ new.Parts uuid j

theorem Parted.refl (uuid : Nat → String) (s : AgentService) : Parted uuid s s :=
  fun _ _ rpc here parts => ⟨rpc, here, parts⟩

/-- What holds of the RPC that a step moves is all there is to show. -/
theorem Moves.parted (moves : Moves i s t)
    (own : ∀ (j : Nat) (rpc : AgentRpc), s.rpcs[i]? = some rpc → rpc.Parts uuid j →
      ∃ new, t.rpcs[i]? = some new ∧ new.Parts uuid j) : Parted uuid s t := by
  intro k j rpc here parts
  by_cases same : k = i
  · subst same
    exact own j rpc here parts
  · obtain ⟨new, set⟩ := moves
    refine ⟨rpc, ?_, parts⟩
    rw [set, List.getElem?_set_ne (Ne.symm same)]
    exact here

theorem Registered.parts_pop {agentId : String} (registered : Registered uuid asked s)
    (distinct : uuid.Injective) (here : s.rpcs[i]? = some old) {j : Nat}
    (named : agentId = uuid j) :
    ∃ new, (s.pop i agentId).rpcs[i]? = some new ∧ new.Parts uuid j := by
  unfold AgentService.pop
  split
  · refine ⟨_, here_setRpc here, fun k found => ?_⟩
    exact distinct ((registered.loggers _ _ found).symm.trans named)
  · exact ⟨_, here_setRpc here, trivial⟩

theorem Registered.parted {action : AgentServiceAction} (registered : Registered uuid asked s)
    (distinct : uuid.Injective) (step : s.step uuid action = some t) : Parted uuid s t := by
  have arrives (new : AgentRpc) (grown : t.rpcs = s.rpcs ++ [new]) : Parted uuid s t := by
    intro i j rpc here parts
    refine ⟨rpc, ?_, parts⟩
    rw [grown, List.getElem?_append_left (List.getElem?_eq_some_iff.mp here).1]
    exact here
  cases action with
  | create admitted call =>
    obtain ⟨new, grown⟩ := create_arrives step
    exact arrives new grown
  | shutdown admitted agentId =>
    obtain ⟨new, grown⟩ := shutdown_arrives step
    exact arrives new grown
  | resume call =>
    obtain ⟨⟨i, agentLock⟩, -, step⟩ := Option.bind_eq_some_iff.mp step
    obtain ⟨rpc, here, step⟩ := Option.bind_eq_some_iff.mp step
    refine Moves.parted (s := { s with agentLock }) (moves_resumed step).1 fun j rpc' there parts => ?_
    change s.rpcs[i]? = some rpc' at there
    rw [here] at there
    cases there
    cases rpc with
    | popping agentId =>
      cases step
      exact (registered.relock agentLock).parts_pop distinct here parts
    | reserving | storing | releasing => cases parts
    | _ => cases step
  | aborted i =>
    simp only [AgentService.step] at step
    split at step
    · rename_i here
      cases step
      exact Moves.parted ⟨_, rfl⟩ fun j rpc there parts => ⟨_, here_setRpc here, trivial⟩
    · rename_i here
      cases step
      exact Moves.parted ⟨_, rfl⟩ fun j rpc there parts => ⟨_, here_setRpc here, trivial⟩
    · cases step
  | created i ok =>
    simp only [AgentService.step] at step
    split at step
    · rename_i here
      have creating (j : Nat) (rpc : AgentRpc) (there : s.rpcs[i]? = some rpc)
          (parts : rpc.Parts uuid j) : ∃ new, t.rpcs[i]? = some new ∧ new.Parts uuid j := by
        rw [here] at there
        cases there
        cases parts
      cases step
      refine Moves.parted ?_ creating
      split
      · exact moves_enterStore
      · exact moves_enterRelease
    · cases step
  | stopped i =>
    simp only [AgentService.step] at step
    split at step
    · rename_i here
      cases step
      exact Moves.parted ⟨_, rfl⟩ fun j rpc there parts => ⟨_, here_setRpc here, trivial⟩
    · cases step
  | cancel i =>
    obtain ⟨rpc, here, step⟩ := Option.bind_eq_some_iff.mp step
    refine Moves.parted (moves_cancelled step).1 fun j rpc' there parts => ?_
    rw [here] at there
    cases there
    cases rpc with
    | rejecting | popping | stopping =>
      cases step
      exact ⟨_, here_setRpc here, trivial⟩
    | reserving | refusing | creating | storing | releasing => cases parts
    | _ => cases step

/-- A `Shutdown` has begun. -/
theorem Registered.parts_shutdown {admitted : Bool} {j : Nat} (registered : Registered uuid asked s)
    (distinct : uuid.Injective) (step : s.step uuid (.shutdown admitted (uuid j)) = some t) :
    ∃ new, t.rpcs[s.rpcs.length]? = some new ∧ new.Parts uuid j := by
  cases admitted with
  | false =>
    cases step
    exact ⟨_, here_arrive, trivial⟩
  | true =>
    cases step
    have arrived : Registered uuid (j :: asked) (s.arrive (.popping (uuid j))) :=
      (registered.mono (List.subset_cons_self ..)).arrive ⟨j, List.mem_cons_self, rfl⟩
    split
    · exact arrived.parts_pop distinct here_arrive rfl
    · exact ⟨_, here_setRpc here_arrive, rfl⟩

theorem step_create_length {admitted : Bool} {call : FactoryCall}
    (step : s.step uuid (.create admitted call) = some t) : s.rpcs.length < t.rpcs.length := by
  obtain ⟨new, grown⟩ := create_arrives step
  rw [grown, List.length_append]
  exact Nat.lt_succ_self _

end AgentService

namespace Remote

open Headless (AgentResponse)

variable {Dict Action : Type} {env : RemoteEnv Dict Action} {s t : RemoteHost Dict} {pid i : Nat}
  {h h' : RemoteAgentInstance Action}

def Greeted (service : AgentService) (i : Nat) (o : HostedAgent Dict) : Prop :=
  match service.rpcs[i]? with
  | some (.returned _) => o.greeting ++ o.entries = o.logged
  | _ => o.greeting = [] ∧ o.entries = o.logged

def Extends (o o' : HostedAgent Dict) : Prop :=
  ∃ more, o'.entries = o.entries ++ more ∧ o'.logged = o.logged ++ more ∧ o'.greeting = o.greeting

theorem Extends.refl (o : HostedAgent Dict) : Extends o o :=
  ⟨[], (List.append_nil _).symm, (List.append_nil _).symm, rfl⟩

theorem extends_log (o : HostedAgent Dict) (message : String) : Extends o (o.log message) := by
  unfold HostedAgent.log
  split
  · exact .refl o
  · exact ⟨[message], rfl, rfl, rfl⟩

theorem events_log (o : HostedAgent Dict) (message : String) :
    (o.log message).events = o.events := by
  unfold HostedAgent.log
  split <;> rfl

theorem Greeted.extends {service : AgentService} {o o' : HostedAgent Dict}
    (greeted : Greeted service i o) (more : Extends o o') : Greeted service i o' := by
  obtain ⟨new, entries, logged, greeting⟩ := more
  unfold Greeted at greeted ⊢
  split at greeted
  · rw [greeting, entries, logged, ← greeted, List.append_assoc]
  · rw [greeting, entries, logged, greeted.2]
    exact ⟨greeted.1, rfl⟩

namespace RemoteHost

theorem adopt_returned {service : AgentService} {agentId : String}
    (here : s.service.rpcs[i]? = some (.returned agentId)) :
    (s.adopt service).agents i = s.agents i := by
  simp [adopt, here]

theorem adopt_events (service : AgentService) (i : Nat) :
    ((s.adopt service).agents i).events = (s.agents i).events := by
  unfold adopt
  dsimp only
  split <;> rfl

theorem adopt_greeted {service : AgentService} (settled : s.service.Settled service)
    (greeted : Greeted s.service i (s.agents i)) :
    Greeted service i ((s.adopt service).agents i) := by
  unfold Greeted at greeted
  split at greeted
  · rename_i agentId here
    have after := settled.finished i _ here rfl
    rw [adopt_returned here, Greeted, after]
    exact greeted
  · rename_i before
    obtain ⟨greeting, entries⟩ := greeted
    unfold adopt
    dsimp only
    split
    · rename_i agentId here
      exact absurd here (before agentId)
    · rename_i agentId here _
      rw [Greeted, here]
      change (s.agents i).entries ++ [] = (s.agents i).logged
      rw [List.append_nil, entries]
    · rename_i other
      unfold Greeted
      split
      · rename_i agentId here
        exact absurd here (other agentId)
      · exact ⟨greeting, entries⟩

theorem adopt_blank {service : AgentService} (outside : service.rpcs.length ≤ i)
    (settled : s.service.Settled service) (blank : s.agents i = {}) :
    (s.adopt service).agents i = {} := by
  have before : s.service.rpcs[i]? = none :=
    List.getElem?_eq_none (Nat.le_trans settled.length outside)
  simp [adopt, before, List.getElem?_eq_none outside, blank]

end RemoteHost

structure HostSound (env : RemoteEnv Dict Action) (s : RemoteHost Dict) : Prop where
  registered : s.service.Registered env.uuid s.asked
  blank : ∀ i, s.service.rpcs.length ≤ i → s.agents i = {}
  owned : ∀ i q, s.owner i = some q → i < s.service.rpcs.length
  asked : ∀ i ∈ s.asked, i < s.service.rpcs.length

structure Later (env : RemoteEnv Dict Action) (pid : Nat) (s t : RemoteHost Dict) : Prop where
  settled : s.service.Settled t.service
  parted : s.service.Parted env.uuid t.service
  owner : ∀ i q, s.owner i = some q → t.owner i = some q
  asked : ∀ i q, q ≠ pid → s.owner i = some q → (i ∈ t.asked ↔ i ∈ s.asked)
  events : ∀ i q, q ≠ pid → s.owner i = some q → (t.agents i).events = (s.agents i).events
  greeted : ∀ i q, q ≠ pid → s.owner i = some q → Greeted s.service i (s.agents i) →
    Greeted t.service i (t.agents i)
  logs : ∀ i q agentId, q ≠ pid → s.owner i = some q →
    s.service.rpcs[i]? = some (.returned agentId) → Extends (s.agents i) (t.agents i)

theorem Later.refl (pid : Nat) (s : RemoteHost Dict) : Later env pid s s :=
  ⟨.refl _, .refl _ _, fun _ _ holds => holds, fun _ _ _ _ => Iff.rfl, fun _ _ _ _ => rfl,
    fun _ _ _ _ greeted => greeted, fun _ _ _ _ _ _ => .refl _⟩

/-- The service goes a step on. -/
theorem HostSound.adopt (sound : HostSound env s) (distinct : env.uuid.Injective)
    {action : AgentServiceAction} {service : AgentService}
    (wanted : ∀ admitted agentId, action = .shutdown admitted agentId →
      ∃ j ∈ s.asked, agentId = env.uuid j)
    (step : s.service.step env.uuid action = some service) :
    HostSound env (s.adopt service) ∧ Later env pid s (s.adopt service) := by
  have settled := AgentService.step_settled step
  refine ⟨⟨sound.registered.step distinct wanted step, fun i outside => ?_, fun i q owned => ?_,
    fun i mem => ?_⟩, settled, sound.registered.parted distinct step, fun _ _ holds => holds,
    fun _ _ _ _ => Iff.rfl, fun i _ _ _ => RemoteHost.adopt_events service i,
    fun i _ _ _ greeted => RemoteHost.adopt_greeted settled greeted,
    fun i _ agentId _ _ here => ?_⟩
  · exact RemoteHost.adopt_blank outside settled
      (sound.blank i (Nat.le_trans settled.length outside))
  · exact Nat.lt_of_lt_of_le (sound.owned i q owned) settled.length
  · exact Nat.lt_of_lt_of_le (sound.asked i mem) settled.length
  · rw [RemoteHost.adopt_returned here]
    exact .refl _

/-- An instance touches its own agent. -/
theorem HostSound.touch (sound : HostSound env s) (owner : s.owner i = some pid)
    (o : HostedAgent Dict) : HostSound env (s.setAgent i o) ∧ Later env pid s (s.setAgent i o) := by
  have other (j q : Nat) (apart : q ≠ pid) (owned : s.owner j = some q) :
      (s.setAgent i o).agents j = s.agents j := by
    refine Function.update_of_ne (fun same => ?_) ..
    rw [same, owner] at owned
    exact apart (Option.some.inj owned).symm
  refine ⟨⟨sound.registered, fun j outside => ?_, sound.owned, sound.asked⟩, .refl _, .refl _ _,
    fun _ _ holds => holds, fun _ _ _ _ => Iff.rfl, fun j q apart owned => ?_,
    fun j q apart owned greeted => ?_, fun j q agentId apart owned _ => ?_⟩
  · have apart : j ≠ i := Nat.ne_of_gt (Nat.lt_of_lt_of_le (sound.owned i pid owner) outside)
    exact (Function.update_of_ne apart ..).trans (sound.blank j outside)
  · rw [other j q apart owned]
  · rw [other j q apart owned]
    exact greeted
  · rw [other j q apart owned]
    exact .refl _

def HostedEvent.call? : HostedEvent Dict → Option (HostedCall Dict)
  | called call => some call
  | _ => none

namespace CallPlace

def isBegun : CallPlace → Bool
  | running _ | replied .. | failed => true
  | _ => false

/-- The handler may still act. -/
def isOpen : CallPlace → Bool
  | sent | running _ => true
  | _ => false

def inFlight : CallPlace → List String
  | replied _ sessionLogs => sessionLogs
  | _ => []

end CallPlace

def begunCall (env : RemoteEnv Dict Action) (rpc : RemoteCall) : Option (HostedCall Dict) :=
  if rpc.place.isBegun then rpc.request.read env else none

structure Exchange (Dict Action : Type) where
  callback : Callback
  call : HostedCall Dict
  result : Option (AgentResponse Dict)
  answer : Option (AgentResponse Action)

namespace Exchange

/-- The two sides see the same, as far as the conversions go. -/
def Faithful (env : RemoteEnv Dict Action) (e : Exchange Dict Action) : Prop :=
  ∃ request reply, e.callback.request = .ok request ∧ request.read env = some e.call ∧
    request.reply env e.result = some reply ∧ answerOf env reply = some e.answer

def events (e : Exchange Dict Action) : List (HostedEvent Dict) :=
  [.called e.call, .returned e.result]

def entry (e : Exchange Dict Action) : Callback × Option (AgentResponse Action) :=
  (e.callback, e.answer)

end Exchange

/-- The hosted agent has seen what the instance has, one call after the other, and the rest. -/
def Told (env : RemoteEnv Dict Action) (history : List (Callback × Option (AgentResponse Action)))
    (events rest : List (HostedEvent Dict)) : Prop :=
  ∃ exchanges : List (Exchange Dict Action), (∀ e ∈ exchanges, e.Faithful env) ∧
    history = exchanges.map Exchange.entry ∧ events = exchanges.flatMap Exchange.events ++ rest

def Seen (env : RemoteEnv Dict Action) (rpc : RemoteCall) (rest : List (HostedEvent Dict)) : Prop :=
  match rpc.place with
  | .sent | .refused => rest = []
  | .running _ => ∃ call, rpc.request.read env = some call ∧ rest = [.called call]
  | .replied reply _ => ∃ call result, rpc.request.read env = some call ∧
      rpc.request.reply env result = some reply ∧ rest = [.called call, .returned result]
  | .failed => ∃ call event, rpc.request.read env = some call ∧ rest = [.called call, event]

def Farewell.inFlight : Farewell → List String
  | replied sessionLogs => sessionLogs
  | _ => []

/-- A request to shut down is about the agent itself. -/
def Farewell.Stands (env : RemoteEnv Dict Action) (s : RemoteHost Dict) (i : Nat) : Farewell → Prop
  | sent agentId => agentId = env.uuid i
  | arrived rpc => ∃ at_, s.service.rpcs[rpc]? = some at_ ∧ at_.Parts env.uuid i
  | _ => True

def RemoteAgentInstance.offered (h : RemoteAgentInstance Action) : List String := h.logs.map Prod.fst

theorem offered_recordRemoteLogs (answers : LogAnswers) (entries : List String) :
    (h.recordRemoteLogs answers entries).offered = h.offered ++ entries := by
  unfold RemoteAgentInstance.offered RemoteAgentInstance.recordRemoteLogs
  rw [List.map_append, List.mapIdx_eq_zipIdx_map, List.map_map]
  exact congrArg (_ ++ ·) (List.zipIdx_map_fst 0 entries)

namespace InstancePlace

def agentId? : InstancePlace → Option String
  | active agentId | awaiting agentId _ _ => some agentId
  | _ => none

def isBorn : InstancePlace → Bool
  | active _ | awaiting .. | leaving | shutdown => true
  | _ => false

/-- The instance has asked for the shutdown of its agent. -/
def hasLeft : InstancePlace → Bool
  | leaving | shutdown => true
  | _ => false

end InstancePlace

/-- Whatever has failed: only the requests of an instance reach its agent, each once at most. -/
structure Isolated (env : RemoteEnv Dict Action) (s : RemoteHost Dict) (pid : Nat)
    (h : RemoteAgentInstance Action) : Prop where
  owner : s.owner h.number = some pid
  named : ∀ agentId, h.place.agentId? = some agentId → agentId = env.uuid h.number
  born : h.place.isBorn = true →
    s.service.rpcs[h.number]? = some (.returned (env.uuid h.number))
  young : h.place.isBorn = false → h.calls = []
  calls : ∀ rpc ∈ h.calls, rpc.agentId = env.uuid h.number ∧
    ∀ j, rpc.place = .running j → j = h.number
  farewell : h.farewell.Stands env s h.number
  stays : h.place.hasLeft = false → h.farewell = .unasked
  asked : h.number ∈ s.asked ↔ h.place.hasLeft = true
  begun : ((s.agents h.number).events.filterMap HostedEvent.call?).Perm
    (h.calls.filterMap (begunCall env))

/-- As long as nothing has failed, the agent has seen what the instance has. -/
def Mirrored (env : RemoteEnv Dict Action) (s : RemoteHost Dict)
    (h : RemoteAgentInstance Action) : Prop :=
  let o := s.agents h.number
  match h.place with
  | .unborn | .gone => True
  | .creating => h.calls = [] ∧ h.history = [] ∧ h.offered = [] ∧ o.events = [] ∧
      Greeted s.service h.number o
  | .active _ | .leaving | .shutdown => (∀ rpc ∈ h.calls, rpc.place.isOpen = false) ∧
      Told env h.history o.events [] ∧
      h.offered ++ (h.farewell.inFlight ++ o.entries) = o.logged
  | .awaiting _ callback call => ∃ rpc, h.calls[call]? = some rpc ∧
      callback.request = .ok rpc.request ∧
      (∀ j other, j ≠ call → h.calls[j]? = some other → other.place.isOpen = false) ∧
      (∃ rest, Told env h.history o.events rest ∧ Seen env rpc rest) ∧
      (rpc.place = .failed ∨ h.offered ++ (rpc.place.inFlight ++ o.entries) = o.logged)

def Standing (env : RemoteEnv Dict Action) (s : RemoteHost Dict) (pid : Nat)
    (h : RemoteAgentInstance Action) : Prop :=
  match h.place with
  | .unborn => h.calls = [] ∧ h.farewell = .unasked ∧ h.history = [] ∧ h.logs = [] ∧
      h.failed = false
  | _ => Isolated env s pid h ∧ (h.failed = false → Mirrored env s h)

theorem Standing.of_isolated (isolated : Isolated env s pid h) (unborn : h.place ≠ .unborn)
    (mirrored : h.failed = false → Mirrored env s h) : Standing env s pid h := by
  unfold Standing
  split
  · exact absurd (by assumption) unborn
  · exact ⟨isolated, mirrored⟩

theorem Standing.isolated (standing : Standing env s pid h) (unborn : h.place ≠ .unborn) :
    Isolated env s pid h ∧ (h.failed = false → Mirrored env s h) := by
  unfold Standing at standing
  split at standing
  · exact absurd (by assumption) unborn
  · exact standing

theorem Farewell.Stands.later {farewell : Farewell} (stands : farewell.Stands env s i)
    (parted : s.service.Parted env.uuid t.service) : farewell.Stands env t i := by
  cases farewell with
  | arrived rpc =>
    obtain ⟨at_, here, parts⟩ := stands
    exact parted rpc i at_ here parts
  | _ => exact stands

theorem Isolated.later {q : Nat} (isolated : Isolated env s q h) (apart : q ≠ pid)
    (later : Later env pid s t) : Isolated env t q h where
  owner := later.owner _ _ isolated.owner
  named := isolated.named
  born living := later.settled.finished _ _ (isolated.born living) rfl
  young := isolated.young
  calls := isolated.calls
  farewell := isolated.farewell.later later.parted
  stays := isolated.stays
  asked := (later.asked _ q apart isolated.owner).trans isolated.asked
  begun := by
    rw [later.events _ q apart isolated.owner]
    exact isolated.begun

theorem Mirrored.later {q : Nat} (mirrored : Mirrored env s h) (isolated : Isolated env s q h)
    (apart : q ≠ pid) (later : Later env pid s t) : Mirrored env t h := by
  have events := later.events _ q apart isolated.owner
  have logged (living : h.place.isBorn = true) :=
    later.logs _ q _ apart isolated.owner (isolated.born living)
  unfold Mirrored at mirrored ⊢
  dsimp only at mirrored ⊢
  rw [events]
  cases place : h.place with
  | unborn => trivial
  | gone => trivial
  | creating =>
    rw [place] at mirrored
    obtain ⟨calls, history, logs, none, greeted⟩ := mirrored
    exact ⟨calls, history, logs, none, later.greeted _ q apart isolated.owner greeted⟩
  | active | leaving | shutdown =>
    rw [place] at mirrored
    obtain ⟨closed, told, logs⟩ := mirrored
    obtain ⟨more, entries, logged, -⟩ := logged (by rw [place]; rfl)
    refine ⟨closed, told, ?_⟩
    rw [entries, logged, ← logs]
    simp only [List.append_assoc]
  | awaiting agentId callback call =>
    rw [place] at mirrored
    obtain ⟨rpc, here, asked, closed, seen, logs⟩ := mirrored
    obtain ⟨more, entries, logged, -⟩ := logged (by rw [place]; rfl)
    refine ⟨rpc, here, asked, closed, seen, logs.imp_right fun logs => ?_⟩
    rw [entries, logged, ← logs]
    simp only [List.append_assoc]

theorem Standing.later {q : Nat} (standing : Standing env s q h) (apart : q ≠ pid)
    (later : Later env pid s t) : Standing env t q h := by
  unfold Standing at standing ⊢
  split
  · rename_i unborn
    rw [unborn] at standing
    exact standing
  · rename_i born
    obtain ⟨isolated, mirrored⟩ := Standing.isolated (by unfold Standing; exact standing) born
    exact ⟨isolated.later apart later, fun intact => (mirrored intact).later isolated apart later⟩

/-- A step keeps the shared state sound, leaves the others alone and leads to where it claims. -/
structure Kept (env : RemoteEnv Dict Action) (pid : Nat) (s t : RemoteHost Dict)
    (h' : RemoteAgentInstance Action) : Prop where
  sound : HostSound env t
  later : Later env pid s t
  here : Standing env t pid h'

theorem filterMap_set_same {α β : Type} {f : α → Option β} {xs : List α} {k : Nat} {x y : α}
    (here : xs[k]? = some x) (same : f y = f x) : (xs.set k y).filterMap f = xs.filterMap f := by
  induction xs generalizing k with
  | nil => rfl
  | cons first xs ih =>
    cases k with
    | zero =>
      cases here
      rw [List.set_cons_zero, List.filterMap_cons, List.filterMap_cons, same]
    | succ k => rw [List.set_cons_succ, List.filterMap_cons, List.filterMap_cons, ih here]

theorem filterMap_set_perm {α β : Type} {f : α → Option β} {xs : List α} {k : Nat} {x y : α}
    {b : β} (here : xs[k]? = some x) (before : f x = none) (after : f y = some b) :
    ((xs.set k y).filterMap f).Perm (b :: xs.filterMap f) := by
  induction xs generalizing k with
  | nil => cases here
  | cons first xs ih =>
    cases k with
    | zero =>
      cases here
      rw [List.set_cons_zero, List.filterMap_cons_some after, List.filterMap_cons_none before]
    | succ k =>
      rw [List.set_cons_succ, List.filterMap_cons, List.filterMap_cons]
      split
      · exact ih here
      · exact ((ih here).cons _).trans (.swap ..)

section Calls

variable {k : Nat} {rpc : RemoteCall} {place : CallPlace}

/-- What has begun counts, not how far it has come. -/
theorem begunCall_place (same : place.isBegun = rpc.place.isBegun) :
    begunCall env { rpc with place } = begunCall env rpc := by
  unfold begunCall
  rw [same]

/-- A handler goes on; what it does concerns the instance's own agent only. -/
theorem Isolated.setCall (isolated : Isolated env s pid h) (here : h.calls[k]? = some rpc)
    (running : ∀ j, place = .running j → j = h.number) (service : t.service = s.service)
    (owner : t.owner = s.owner) (asked : t.asked = s.asked)
    (begun : ((t.agents h.number).events.filterMap HostedEvent.call?).Perm
      ((h.setCall k rpc place).calls.filterMap (begunCall env))) :
    Isolated env t pid (h.setCall k rpc place) where
  owner := owner ▸ isolated.owner
  named := isolated.named
  born := service ▸ isolated.born
  young unborn := by
    rw [isolated.young unborn] at here
    cases here
  calls other mem := by
    obtain same | old := List.mem_or_eq_of_mem_set mem |>.symm
    · rw [same]
      exact ⟨(isolated.calls rpc (List.mem_of_getElem? here)).1, running⟩
    · exact isolated.calls other old
  farewell := isolated.farewell.later (service ▸ .refl _ _)
  stays := isolated.stays
  asked := asked ▸ isolated.asked
  begun := begun

/-- As long as nothing has failed, only the call that the instance awaits can go on. -/
theorem Mirrored.awaits (mirrored : Mirrored env s h) (isolated : Isolated env s pid h)
    (here : h.calls[k]? = some rpc) (isOpen : rpc.place.isOpen = true) :
    ∃ agentId callback, h.place = .awaiting agentId callback k ∧
      callback.request = .ok rpc.request ∧
      (∀ j other, j ≠ k → h.calls[j]? = some other → other.place.isOpen = false) ∧
      (∃ rest, Told env h.history (s.agents h.number).events rest ∧ Seen env rpc rest) ∧
      (rpc.place = .failed ∨
        h.offered ++ (rpc.place.inFlight ++ (s.agents h.number).entries) =
          (s.agents h.number).logged) := by
  have mem := List.mem_of_getElem? here
  have none_ (unborn : h.place.isBorn = false) : False := by
    rw [isolated.young unborn] at mem
    cases mem
  have shut (closed : ∀ rpc ∈ h.calls, rpc.place.isOpen = false) : False := by
    rw [closed rpc mem] at isOpen
    cases isOpen
  unfold Mirrored at mirrored
  dsimp only at mirrored
  cases at_ : h.place with
  | unborn => exact (none_ (by rw [at_]; rfl)).elim
  | creating => exact (none_ (by rw [at_]; rfl)).elim
  | gone => exact (none_ (by rw [at_]; rfl)).elim
  | active | leaving | shutdown =>
    rw [at_] at mirrored
    exact (shut mirrored.1).elim
  | awaiting agentId callback call =>
    rw [at_] at mirrored
    obtain ⟨rpc', there, asked, closed, seen, logs⟩ := mirrored
    by_cases same : k = call
    · subst same
      rw [here] at there
      cases there
      exact ⟨agentId, callback, rfl, asked, closed, seen, logs⟩
    · rw [closed k rpc same here] at isOpen
      cases isOpen

/-- The call that the instance awaits has gone on. -/
theorem Mirrored.setCall {agentId : String} {callback : Callback}
    (at_ : h.place = .awaiting agentId callback k) (here : h.calls[k]? = some rpc)
    (asked : callback.request = .ok rpc.request)
    (closed : ∀ j other, j ≠ k → h.calls[j]? = some other → other.place.isOpen = false)
    {rest : List (HostedEvent Dict)} (told : Told env h.history (t.agents h.number).events rest)
    (seen : Seen env { rpc with place } rest)
    (logs : place = .failed ∨ h.offered ++ (place.inFlight ++ (t.agents h.number).entries) =
      (t.agents h.number).logged) : Mirrored env t (h.setCall k rpc place) := by
  have at' : (h.setCall k rpc place).place = .awaiting agentId callback k := at_
  unfold Mirrored
  rw [at']
  refine ⟨{ rpc with place }, ?_, asked, fun j other apart there => ?_, ⟨rest, told, seen⟩, logs⟩
  · exact List.getElem?_set_self (List.getElem?_eq_some_iff.mp here).1
  · change (h.calls.set k _)[j]? = some other at there
    rw [List.getElem?_set_ne (Ne.symm apart)] at there
    exact closed j other apart there

theorem Standing.has_calls (standing : Standing env s pid h) (here : h.calls[k]? = some rpc) :
    h.place ≠ .unborn := by
  intro unborn
  unfold Standing at standing
  rw [unborn] at standing
  rw [standing.1] at here
  cases here

theorem Told.note {history : List (Callback × Option (AgentResponse Action))}
    {events rest : List (HostedEvent Dict)} (told : Told env history events rest)
    (event : HostedEvent Dict) : Told env history (events ++ [event]) (rest ++ [event]) := by
  obtain ⟨exchanges, faithful, entries, same⟩ := told
  exact ⟨exchanges, faithful, entries, by rw [same, List.append_assoc]⟩

/-- A handler that is refused has not touched the agent. -/
theorem Kept.refused (sound : HostSound env s) (standing : Standing env s pid h)
    (here : h.calls[k]? = some rpc) (sent : rpc.place = .sent) :
    Kept env pid s s (h.setCall k rpc .refused) := by
  have unborn := standing.has_calls here
  obtain ⟨isolated, mirrored⟩ := standing.isolated unborn
  have begun := isolated.begun
  have same : begunCall env { rpc with place := .refused } = begunCall env rpc :=
    begunCall_place (by rw [sent]; rfl)
  rw [← filterMap_set_same here same] at begun
  refine ⟨sound, .refl _ _, .of_isolated
    (isolated.setCall here (fun j running => by cases running) rfl rfl rfl begun) unborn
    fun intact => ?_⟩
  obtain ⟨agentId, callback, at_, asked, closed, ⟨rest, told, seen⟩, logs⟩ :=
    (mirrored intact).awaits isolated here (by rw [sent]; rfl)
  unfold Seen at seen
  rw [sent] at seen logs
  exact .setCall at_ here asked closed told seen (logs.imp (fun failed => by cases failed) id)

/-- A handler that goes on tells the agent, or notes what the agent does. -/
theorem Kept.setCall (sound : HostSound env s) (standing : Standing env s pid h)
    (here : h.calls[k]? = some rpc) (isOpen : rpc.place.isOpen = true) {o : HostedAgent Dict}
    (event : HostedEvent Dict) (events : o.events = (s.agents h.number).events ++ [event])
    (running : ∀ j, place = .running j → j = h.number)
    (counted : event.call? = none ∧ begunCall env { rpc with place } = begunCall env rpc ∨
      ∃ call, event.call? = some call ∧ begunCall env rpc = none ∧
        begunCall env { rpc with place } = some call)
    (seen : ∀ rest, Seen env rpc rest → Seen env { rpc with place } (rest ++ [event]))
    (logs : place = .failed ∨ place.inFlight ++ o.entries =
      rpc.place.inFlight ++ (s.agents h.number).entries ∧ o.logged = (s.agents h.number).logged) :
    Kept env pid s (s.setAgent h.number o) (h.setCall k rpc place) := by
  have unborn := standing.has_calls here
  obtain ⟨isolated, mirrored⟩ := standing.isolated unborn
  obtain ⟨sound, later⟩ := sound.touch isolated.owner o
  have own : (s.setAgent h.number o).agents h.number = o := Function.update_self ..
  have begun : (((s.setAgent h.number o).agents h.number).events.filterMap HostedEvent.call?).Perm
      ((h.setCall k rpc place).calls.filterMap (begunCall env)) := by
    rw [own, events, List.filterMap_append]
    rcases counted with ⟨none_, same⟩ | ⟨call, called, before, after⟩
    · rw [List.filterMap_cons_none none_, List.filterMap_nil, List.append_nil]
      exact isolated.begun.trans (.of_eq (filterMap_set_same here same).symm)
    · rw [List.filterMap_cons_some called, List.filterMap_nil]
      exact (List.perm_append_comm.trans (isolated.begun.cons call)).trans
        (filterMap_set_perm here before after).symm
  refine ⟨sound, later, .of_isolated (isolated.setCall here running rfl rfl rfl begun) unborn
    fun intact => ?_⟩
  obtain ⟨agentId, callback, at_, asked, closed, ⟨rest, told, known⟩, logged⟩ :=
    (mirrored intact).awaits isolated here isOpen
  have grown : Told env h.history ((s.setAgent h.number o).agents h.number).events
      (rest ++ [event]) := by
    rw [own, events]
    exact told.note event
  refine .setCall at_ here asked closed grown (seen rest known) ?_
  rw [own]
  refine logs.imp_right fun logs => ?_
  rw [logs.1, logs.2]
  refine logged.resolve_left fun failed => ?_
  rw [failed] at isOpen
  cases isOpen

end Calls

/-- The id of an instance leads to its own agent. -/
theorem Isolated.lookup (isolated : Isolated env s pid h) (sound : HostSound env s)
    (distinct : env.uuid.Injective) {rpc : RemoteCall} (mem : rpc ∈ h.calls) {agent : Nat}
    (found : s.service.agents.lookup rpc.agentId = some agent) : agent = h.number := by
  have named := (sound.registered.agents _ _ found).1
  exact distinct (named.symm.trans (isolated.calls rpc mem).1)

theorem Isolated.logger (isolated : Isolated env s pid h) (sound : HostSound env s)
    (distinct : env.uuid.Injective) {rpc : RemoteCall} (mem : rpc ∈ h.calls) {logger : Nat}
    (found : s.service.loggers.lookup rpc.agentId = some logger) : logger = h.number := by
  have named := sound.registered.loggers _ _ found
  exact distinct (named.symm.trans (isolated.calls rpc mem).1)

/-- A request arrives. -/
theorem handle_kept (sound : HostSound env s) (distinct : env.uuid.Injective)
    (standing : Standing env s pid h) {k : Nat} {rpc : RemoteCall} {admitted : Bool}
    (here : h.calls[k]? = some rpc) (sent : rpc.place = .sent) :
    Kept env pid s (s.handle env rpc admitted).1
      (h.setCall k rpc (s.handle env rpc admitted).2) := by
  have isolated := (standing.isolated (standing.has_calls here)).1
  unfold RemoteHost.handle
  split
  · exact .refused sound standing here sent
  · split
    · exact .refused sound standing here sent
    · rename_i agent found
      cases isolated.lookup sound distinct (List.mem_of_getElem? here) found
      split
      · exact .refused sound standing here sent
      · rename_i hosted read
        have unbegun : begunCall env rpc = none := by
          unfold begunCall
          rw [sent]
          rfl
        refine .setCall sound standing here (by rw [sent]; rfl) (.called hosted) rfl
          (fun j running => by cases running; rfl) (.inr ⟨hosted, rfl, unbegun, read⟩)
          (fun rest seen => ?_) (.inr ⟨by rw [sent]; rfl, rfl⟩)
        unfold Seen at seen
        rw [sent] at seen
        subst seen
        exact ⟨hosted, read, rfl⟩

/-- What the agent has seen of a call whose method it is running. -/
theorem Seen.of_running {rpc : RemoteCall} {agent : Nat} {rest : List (HostedEvent Dict)}
    (running : rpc.place = .running agent) (seen : Seen env rpc rest) :
    ∃ call, rpc.request.read env = some call ∧ rest = [.called call] := by
  unfold Seen at seen
  rw [running] at seen
  exact seen

/-- A handler fails, or is cancelled, behind the call of the agent's method. -/
theorem Kept.failed (sound : HostSound env s) (standing : Standing env s pid h) {k : Nat}
    {rpc : RemoteCall} (here : h.calls[k]? = some rpc) (running : rpc.place = .running h.number)
    (event : HostedEvent Dict) (quiet : event.call? = none) {o : HostedAgent Dict}
    (events : o.events = (s.agents h.number).events ++ [event]) :
    Kept env pid s (s.setAgent h.number o) (h.setCall k rpc .failed) := by
  refine .setCall sound standing here (by rw [running]; rfl) event events
    (fun j at_ => by cases at_) (.inl ⟨quiet, begunCall_place (by rw [running]; rfl)⟩)
    (fun rest seen => ?_) (.inl rfl)
  obtain ⟨call, read, rfl⟩ := seen.of_running running
  exact ⟨call, event, read, rfl⟩

theorem setAgent_setAgent (o o' : HostedAgent Dict) :
    (s.setAgent i o).setAgent i o' = s.setAgent i o' := by
  unfold RemoteHost.setAgent
  rw [Function.update_idem]

/-- The agent's method returns or raises. -/
theorem finishHandler_kept (sound : HostSound env s) (distinct : env.uuid.Injective)
    (standing : Standing env s pid h) {k : Nat} {rpc : RemoteCall} {agent : Nat}
    {result : Option (Option (AgentResponse Dict))} (here : h.calls[k]? = some rpc)
    (running : rpc.place = .running agent) :
    Kept env pid s (s.finishHandler env rpc agent result).1
      (h.setCall k rpc (s.finishHandler env rpc agent result).2) := by
  have mem := List.mem_of_getElem? here
  have isolated := (standing.isolated (standing.has_calls here)).1
  cases (isolated.calls rpc mem).2 agent running
  cases result with
  | none => exact .failed sound standing here running .raised rfl rfl
  | some result =>
    unfold RemoteHost.finishHandler
    dsimp only
    split
    · exact .failed sound standing here running (.returned result) rfl rfl
    · rename_i logger found
      cases isolated.logger sound distinct mem found
      have noted : (s.noteAgent h.number (.returned result)).agents h.number =
          (s.agents h.number).note (.returned result) := Function.update_self ..
      rw [noted, RemoteHost.noteAgent, setAgent_setAgent]
      split
      · exact .failed sound standing here running (.returned result) rfl rfl
      · rename_i reply replied
        refine .setCall sound standing here (by rw [running]; rfl) (.returned result) rfl
          (fun j at_ => by cases at_) (.inl ⟨rfl, begunCall_place (by rw [running]; rfl)⟩)
          (fun rest seen => ?_) (.inr ⟨?_, rfl⟩)
        · obtain ⟨call, read, rfl⟩ := seen.of_running running
          exact ⟨call, result, read, replied, rfl⟩
        · rw [running]
          exact List.append_nil _

theorem Told.nil : Told env [] [] ([] : List (HostedEvent Dict)) :=
  ⟨[], fun _ mem => absurd mem List.not_mem_nil, rfl, rfl⟩

/-- An instance moves on without a request. -/
theorem Isolated.moved (isolated : Isolated env s pid h) (number : h'.number = h.number)
    (calls : h'.calls = h.calls) (farewell : h'.farewell = h.farewell)
    (named : ∀ agentId, h'.place.agentId? = some agentId → agentId = env.uuid h.number)
    (born : h'.place.isBorn = true →
      s.service.rpcs[h.number]? = some (.returned (env.uuid h.number)))
    (young : h'.place.isBorn = false → h.calls = [])
    (left : h'.place.hasLeft = h.place.hasLeft) : Isolated env s pid h' where
  owner := number ▸ isolated.owner
  named := number ▸ named
  born := number ▸ born
  young unborn := calls ▸ young unborn
  calls := by
    rw [calls, number]
    exact isolated.calls
  farewell := by
    rw [farewell, number]
    exact isolated.farewell
  stays := by
    rw [left, farewell]
    exact isolated.stays
  asked := by
    rw [number, left]
    exact isolated.asked
  begun := by
    rw [calls, number]
    exact isolated.begun

/-- An instance asks for its agent. -/
theorem create_kept (sound : HostSound env s) (distinct : env.uuid.Injective)
    (standing : Standing env s pid h) (unborn : h.place = .unborn) {admitted : Bool}
    {call : FactoryCall} {service : AgentService}
    (step : s.service.step env.uuid (.create admitted call) = some service) :
    Kept env pid s
      { s.adopt service with owner := Function.update s.owner s.service.rpcs.length (some pid) }
      { h with number := s.service.rpcs.length, place := .creating } := by
  have longer := AgentService.step_create_length step
  obtain ⟨adopted, later⟩ : HostSound env (s.adopt service) ∧ Later env pid s (s.adopt service) :=
    sound.adopt distinct (fun _ _ same => by cases same) step
  have others {i q : Nat} (owned : s.owner i = some q) :
      Function.update s.owner s.service.rpcs.length (some pid) i = some q := by
    rw [Function.update_of_ne (Nat.ne_of_lt (sound.owned i q owned)), owned]
  have blank := sound.blank _ (Nat.le_refl _)
  have events : ((s.adopt service).agents s.service.rpcs.length).events = [] := by
    rw [RemoteHost.adopt_events, blank]
  unfold Standing at standing
  rw [unborn] at standing
  obtain ⟨calls, farewell, history, logs, -⟩ := standing
  refine ⟨⟨adopted.registered, adopted.blank, fun i q owned => ?_, adopted.asked⟩,
    ⟨later.settled, later.parted, fun i q owned => others owned, later.asked, later.events,
      later.greeted, later.logs⟩, .of_isolated ?_ (fun same => by cases same) fun _ => ?_⟩
  · change Function.update s.owner s.service.rpcs.length (some pid) i = some q at owned
    rw [Function.update_apply] at owned
    split at owned
    · rename_i new
      rw [new]
      exact longer
    · exact adopted.owned i q owned
  · refine ⟨Function.update_self .., fun _ none_ => (by cases none_), fun born => (by cases born),
      fun _ => calls, fun rpc mem => ?_, ?_, fun _ => farewell,
      ⟨fun asked => ?_, fun left => by cases left⟩, ?_⟩
    · change rpc ∈ h.calls at mem
      rw [calls] at mem
      cases mem
    · change h.farewell.Stands env _ _
      rw [farewell]
      trivial
    · exact absurd (sound.asked _ asked) (Nat.lt_irrefl _)
    · change (((s.adopt service).agents s.service.rpcs.length).events.filterMap _).Perm
        (h.calls.filterMap _)
      rw [events, calls]
      exact .nil
  · refine ⟨calls, history, congrArg (List.map Prod.fst) logs, events, RemoteHost.adopt_greeted later.settled ?_⟩
    unfold Greeted
    rw [List.getElem?_eq_none (Nat.le_refl _), blank]
    exact ⟨rfl, rfl⟩

/-- The reply of `CreateAgent` comes in time. -/
theorem begin_kept (sound : HostSound env s) (standing : Standing env s pid h)
    (creating : h.place = .creating) {answers : LogAnswers} {agentId : String}
    (here : s.service.rpcs[h.number]? = some (.returned agentId)) :
    Kept env pid s s (h.begin answers agentId (s.agents h.number).greeting) := by
  obtain ⟨isolated, mirrored⟩ := standing.isolated (by rw [creating]; intro same; cases same)
  have named : agentId = env.uuid h.number := sound.registered.rpcs _ _ here
  have none_ : h.calls = [] := isolated.young (by rw [creating]; rfl)
  unfold RemoteAgentInstance.begin
  refine ⟨sound, .refl _ _, ?_⟩
  split
  · refine .of_isolated (isolated.moved rfl rfl rfl (fun other at_ => by cases at_)
      (fun born => by cases born) (fun _ => none_) (by rw [creating]; rfl))
      (fun same => by cases same) fun _ => trivial
  · refine .of_isolated (isolated.moved rfl rfl rfl (fun other at_ => ?_) (fun _ => named ▸ here)
      (fun _ => none_) (by rw [creating]; rfl)) (fun same => by cases same) fun intact => ?_
    · cases at_
      exact named
    have mirrored := mirrored intact
    unfold Mirrored at mirrored
    rw [creating] at mirrored
    obtain ⟨-, history, logs, events, greeted⟩ := mirrored
    unfold Greeted at greeted
    rw [here] at greeted
    have unasked : h.farewell = .unasked := isolated.stays (by rw [creating]; rfl)
    refine ⟨fun rpc mem => ?_, ?_, ?_⟩
    · change rpc ∈ h.calls at mem
      rw [none_] at mem
      cases mem
    · change Told env h.history (s.agents h.number).events []
      rw [history, events]
      exact .nil
    · change (h.recordRemoteLogs answers _).offered ++
        (h.farewell.inFlight ++ (s.agents h.number).entries) = _
      rw [offered_recordRemoteLogs, logs, unasked]
      exact greeted

/-- A callback is called. -/
theorem invoke_kept (sound : HostSound env s) (standing : Standing env s pid h)
    {agentId : String} (active : h.place = .active agentId) (callback : Callback) :
    Kept env pid s s (h.invoke agentId callback) := by
  obtain ⟨isolated, mirrored⟩ := standing.isolated (by rw [active]; intro same; cases same)
  have named := isolated.named agentId (by rw [active]; rfl)
  have born := isolated.born (by rw [active]; rfl)
  have unasked : h.number ∉ s.asked := by
    rw [isolated.asked, active]
    intro left
    cases left
  unfold RemoteAgentInstance.invoke
  refine ⟨sound, .refl _ _, ?_⟩
  split
  · refine .of_isolated (isolated.moved rfl rfl rfl isolated.named (fun _ => born) isolated.young
      rfl) ?_ fun intact => by cases intact
    change h.place ≠ .unborn
    rw [active]
    intro same
    cases same
  · rename_i request converted
    refine .of_isolated ⟨isolated.owner, fun other at_ => ?_, fun _ => born, fun young => ?_,
      fun rpc mem => ?_, isolated.farewell, fun _ => isolated.stays (by rw [active]; rfl),
      ⟨fun asked => absurd asked unasked, fun at_ => ?_⟩, ?_⟩
      (fun same => by cases same) fun intact => ?_
    · cases at_
      exact named
    · cases young
    · rcases List.mem_append.mp mem with old | new
      · exact isolated.calls rpc old
      · rw [List.mem_singleton.mp new]
        exact ⟨named, fun j running => by cases running⟩
    · cases at_
    · change List.Perm _ ((h.calls ++ [_]).filterMap _)
      rw [List.filterMap_append]
      exact isolated.begun.trans (.of_eq (List.append_nil _).symm)
    · have mirrored := mirrored intact
      unfold Mirrored at mirrored
      rw [active] at mirrored
      obtain ⟨closed, told, logs⟩ := mirrored
      refine ⟨⟨agentId, request, .sent⟩, List.getElem?_concat_length, converted,
        fun j other apart there => ?_, ⟨[], told, rfl⟩, .inr ?_⟩
      swap
      · rw [isolated.stays (by rw [active]; rfl)] at logs
        exact logs
      rw [List.getElem?_append] at there
      split at there
      · exact closed other (List.mem_of_getElem? there)
      · rename_i outside
        obtain ⟨inside, -⟩ := List.getElem?_eq_some_iff.mp there
        rw [List.length_singleton] at inside
        omega

/-- A reply ends the callback that awaits it. -/
theorem receive_kept (sound : HostSound env s) (standing : Standing env s pid h)
    {answers : LogAnswers} {agentId : String} {callback : Callback} {k : Nat} {rpc : RemoteCall}
    {reply : AgentReply} {sessionLogs : List String} (at_ : h.place = .awaiting agentId callback k)
    (here : h.calls[k]? = some rpc) (replied : rpc.place = .replied reply sessionLogs) :
    Kept env pid s s (h.receive env answers agentId callback reply sessionLogs) := by
  obtain ⟨isolated, mirrored⟩ := standing.isolated (by rw [at_]; intro same; cases same)
  have named := isolated.named agentId (by rw [at_]; rfl)
  have born := isolated.born (by rw [at_]; rfl)
  have unasked : h.farewell = .unasked := isolated.stays (by rw [at_]; rfl)
  have back (h' : RemoteAgentInstance Action) (number : h'.number = h.number)
      (calls : h'.calls = h.calls) (farewell : h'.farewell = h.farewell)
      (place : h'.place = .active agentId) : Isolated env s pid h' := by
    refine isolated.moved number calls farewell (fun other same => ?_) (fun _ => born)
      (fun young => ?_) (by rw [place, at_]; rfl)
    · rw [place] at same
      cases same
      exact named
    · rw [place] at young
      cases young
  unfold RemoteAgentInstance.receive
  refine ⟨sound, .refl _ _, ?_⟩
  dsimp only
  split
  · exact .of_isolated (back _ rfl rfl rfl rfl) (fun same => by cases same)
      fun intact => by cases intact
  · rename_i answer answered
    refine .of_isolated (back _ rfl rfl rfl rfl) (fun same => by cases same) fun intact => ?_
    have mirrored := mirrored intact
    unfold Mirrored at mirrored
    rw [at_] at mirrored
    obtain ⟨rpc', there, asked, closed, ⟨rest, told, seen⟩, logs⟩ := mirrored
    rw [here] at there
    cases there
    unfold Seen at seen
    rw [replied] at seen logs
    obtain ⟨call, result, read, written, rfl⟩ := seen
    obtain ⟨exchanges, faithful, entries, events⟩ := told
    refine ⟨fun other mem => ?_, ⟨exchanges ++ [⟨callback, call, result, answer⟩],
      fun e mem => ?_, ?_, ?_⟩, ?_⟩
    · obtain ⟨j, there⟩ := List.mem_iff_getElem?.mp mem
      by_cases same : j = k
      · subst same
        change h.calls[j]? = some other at there
        rw [here] at there
        cases there
        rw [replied]
        rfl
      · exact closed j other same there
    · rcases List.mem_append.mp mem with old | new
      · exact faithful e old
      · rw [List.mem_singleton.mp new]
        exact ⟨rpc.request, reply, asked, read, written, answered⟩
    · change h.history ++ [_] = _
      rw [entries, List.map_append]
      rfl
    · change (s.agents h.number).events = _
      rw [events, List.flatMap_append, List.append_nil]
      rfl
    · rcases logs with failed | logs
      · cases failed
      · change (h.recordRemoteLogs answers sessionLogs).offered ++
          (h.farewell.inFlight ++ (s.agents h.number).entries) = _
        rw [offered_recordRemoteLogs, unasked, List.append_assoc]
        exact logs

theorem mirrored_left (left : h.place.hasLeft = true) : Mirrored env s h ↔
    (∀ rpc ∈ h.calls, rpc.place.isOpen = false) ∧ Told env h.history (s.agents h.number).events [] ∧
      h.offered ++ (h.farewell.inFlight ++ (s.agents h.number).entries) =
        (s.agents h.number).logged := by
  unfold Mirrored
  cases place : h.place with
  | active | leaving | shutdown => rfl
  | _ =>
    rw [place] at left
    cases left

/-- An instance gives up what it awaits. -/
theorem giveUp_kept (sound : HostSound env s) (standing : Standing env s pid h)
    {input : RemoteInput Dict} (giveUp : input = .giveUp)
    (step : h.step env s pid input = some (t, h')) : Kept env pid s t h' := by
  subst giveUp
  simp only [RemoteAgentInstance.step] at step
  split at step
  · rename_i creating
    cases step
    obtain ⟨isolated, -⟩ := standing.isolated (by rw [creating]; intro same; cases same)
    refine ⟨sound, .refl _ _, .of_isolated (isolated.moved rfl rfl rfl (fun _ same => by cases same)
      (fun born => by cases born) (fun _ => isolated.young (by rw [creating]; rfl))
      (by rw [creating]; rfl)) (fun same => by cases same) fun _ => trivial⟩
  · rename_i agentId callback k awaiting
    cases step
    obtain ⟨isolated, -⟩ := standing.isolated (by rw [awaiting]; intro same; cases same)
    refine ⟨sound, .refl _ _, .of_isolated (isolated.moved rfl rfl rfl (fun other same => ?_)
      (fun _ => isolated.born (by rw [awaiting]; rfl)) (fun young => by cases young)
      (by rw [awaiting]; rfl)) (fun same => by cases same) fun intact => by cases intact⟩
    cases same
    exact isolated.named agentId (by rw [awaiting]; rfl)
  · rename_i leaving
    cases step
    have left : h.place.hasLeft = true := by rw [leaving]; rfl
    obtain ⟨isolated, mirrored⟩ := standing.isolated (by rw [leaving]; intro same; cases same)
    refine ⟨sound, .refl _ _, .of_isolated (isolated.moved rfl rfl rfl (fun _ same => by cases same)
      (fun _ => isolated.born (by rw [leaving]; rfl)) (fun young => by cases young) left.symm)
      (fun same => by cases same) fun intact => (mirrored_left rfl).mpr ?_⟩
    exact (mirrored_left left).mp (mirrored intact)
  · cases step

/-- An instance is shut down: it asks for the shutdown of its own agent. -/
theorem shutdown_kept (sound : HostSound env s) (standing : Standing env s pid h)
    {agentId : String} (active : h.place = .active agentId) :
    Kept env pid s { s with asked := h.number :: s.asked }
      { h with place := .leaving, farewell := .sent agentId } := by
  obtain ⟨isolated, mirrored⟩ := standing.isolated (by rw [active]; intro same; cases same)
  have named := isolated.named agentId (by rw [active]; rfl)
  have born := isolated.born (by rw [active]; rfl)
  have mine := List.mem_cons_self (a := h.number) (l := s.asked)
  refine ⟨⟨sound.registered.mono (List.subset_cons_self ..), sound.blank, sound.owned,
    fun i mem => ?_⟩, ⟨.refl _, .refl _ _, fun _ _ holds => holds, fun i q apart owned => ?_,
    fun _ _ _ _ => rfl, fun _ _ _ _ greeted => greeted, fun _ _ _ _ _ _ => .refl _⟩,
    .of_isolated ⟨isolated.owner, fun other same => (by cases same), fun _ => born,
      fun young => (by cases young), isolated.calls, named, fun stays => (by cases stays),
      ⟨fun _ => rfl, fun _ => mine⟩, isolated.begun⟩ (fun same => by cases same) fun intact => ?_⟩
  · rcases List.mem_cons.mp mem with rfl | old
    · exact sound.owned _ pid isolated.owner
    · exact sound.asked i old
  · refine ⟨fun mem => (List.mem_cons.mp mem).resolve_left fun same => ?_, List.mem_cons_of_mem _⟩
    rw [same, isolated.owner] at owned
    exact apart (Option.some.inj owned).symm
  · have mirrored := mirrored intact
    unfold Mirrored at mirrored
    rw [active, isolated.stays (by rw [active]; rfl)] at mirrored
    exact mirrored

/-- Towards an instance whose request it serves the service behaves as towards any other. -/
theorem Isolated.adopt (isolated : Isolated env s pid h)
    (mirrored : h.failed = false → Mirrored env s h) {service : AgentService}
    (later : ∀ q : Nat, Later env q s (s.adopt service)) :
    Isolated env (s.adopt service) pid h ∧
      (h.failed = false → Mirrored env (s.adopt service) h) := by
  have apart : pid ≠ pid + 1 := Nat.ne_of_lt (Nat.lt_succ_self pid)
  exact ⟨isolated.later apart (later _),
    fun intact => (mirrored intact).later isolated apart (later _)⟩

theorem InstancePlace.born_of_left {place : InstancePlace} (left : place.hasLeft = true) :
    place ≠ .unborn := by
  rintro rfl
  cases left

/-- The request of an instance that has left goes on. -/
theorem Isolated.part (isolated : Isolated env s pid h) (left : h.place.hasLeft = true)
    {farewell : Farewell} (stands : farewell.Stands env s h.number) :
    Isolated env s pid { h with farewell } := by
  refine ⟨isolated.owner, isolated.named, isolated.born, isolated.young, isolated.calls, stands,
    fun stays => ?_, isolated.asked, isolated.begun⟩
  change h.place.hasLeft = false at stays
  rw [left] at stays
  cases stays

/-- An instance that has left learns how its request stands. -/
theorem Kept.part (sound : HostSound env t) (later : Later env pid s t)
    (isolated : Isolated env t pid h) (mirrored : h.failed = false → Mirrored env t h)
    (left : h.place.hasLeft = true) {farewell : Farewell}
    (stands : farewell.Stands env t h.number) (same : farewell.inFlight = h.farewell.inFlight) :
    Kept env pid s t { h with farewell } := by
  refine ⟨sound, later, .of_isolated (isolated.part left stands) (InstancePlace.born_of_left left)
    fun intact => (mirrored_left (h := { h with farewell }) left).mpr ?_⟩
  obtain ⟨closed, told, logs⟩ := (mirrored_left left).mp (mirrored intact)
  refine ⟨closed, told, ?_⟩
  rw [← same] at logs
  exact logs

theorem Standing.has_left (standing : Standing env s pid h) (asked : h.farewell ≠ .unasked) :
    h.place ≠ .unborn ∧ h.place.hasLeft = true := by
  have unborn : h.place ≠ .unborn := by
    intro unborn
    unfold Standing at standing
    rw [unborn] at standing
    exact asked standing.2.1
  refine ⟨unborn, ?_⟩
  cases left : h.place.hasLeft with
  | true => rfl
  | false => exact absurd ((standing.isolated unborn).1.stays left) asked

theorem Extends.trans {o o' o'' : HostedAgent Dict} (first : Extends o o')
    (second : Extends o' o'') : Extends o o'' := by
  obtain ⟨more, entries, logged, greeting⟩ := first
  obtain ⟨new, entries', logged', greeting'⟩ := second
  refine ⟨more ++ new, ?_, ?_, greeting'.trans greeting⟩
  · rw [entries', entries, List.append_assoc]
  · rw [logged', logged, List.append_assoc]

theorem Later.trans {u : RemoteHost Dict} (first : Later env pid s t) (second : Later env pid t u) :
    Later env pid s u where
  settled := first.settled.trans second.settled
  parted i j rpc here parts := by
    obtain ⟨new, there, parts⟩ := first.parted i j rpc here parts
    exact second.parted i j new there parts
  owner i q owned := second.owner i q (first.owner i q owned)
  asked i q apart owned :=
    (second.asked i q apart (first.owner i q owned)).trans (first.asked i q apart owned)
  events i q apart owned :=
    (second.events i q apart (first.owner i q owned)).trans (first.events i q apart owned)
  greeted i q apart owned greeted :=
    second.greeted i q apart (first.owner i q owned) (first.greeted i q apart owned greeted)
  logs i q agentId apart owned here :=
    (first.logs i q agentId apart owned here).trans
      (second.logs i q agentId apart (first.owner i q owned) (first.settled.finished _ _ here rfl))

/-- What the agent has logged goes with the reply of `Shutdown`. -/
theorem Kept.drained (sound : HostSound env t) (later : Later env pid s t)
    (isolated : Isolated env t pid h) (mirrored : h.failed = false → Mirrored env t h)
    (left : h.place.hasLeft = true) (nothing : h.farewell.inFlight = []) :
    Kept env pid s (t.setAgent h.number (t.agents h.number).drain.2)
      { h with farewell := .replied (t.agents h.number).drain.1 } := by
  obtain ⟨touched, more⟩ := sound.touch isolated.owner (t.agents h.number).drain.2
  have own : (t.setAgent h.number (t.agents h.number).drain.2).agents h.number =
      (t.agents h.number).drain.2 := Function.update_self ..
  have drained : Isolated env (t.setAgent h.number (t.agents h.number).drain.2) pid h := by
    refine ⟨isolated.owner, isolated.named, isolated.born, isolated.young, isolated.calls,
      isolated.farewell, isolated.stays, isolated.asked, ?_⟩
    rw [own]
    exact isolated.begun
  refine ⟨touched, later.trans more, .of_isolated (drained.part left trivial)
    (InstancePlace.born_of_left left) fun intact => (mirrored_left (h := { h with
      farewell := .replied (t.agents h.number).drain.1 }) left).mpr ?_⟩
  obtain ⟨closed, told, logs⟩ := (mirrored_left left).mp (mirrored intact)
  rw [nothing] at logs
  rw [own]
  refine ⟨closed, told, ?_⟩
  change h.offered ++ ((t.agents h.number).entries ++ []) = (t.agents h.number).logged
  rw [List.append_nil]
  exact logs

/-- The request to shut down arrives. -/
theorem farewell_kept (sound : HostSound env s) (distinct : env.uuid.Injective)
    (standing : Standing env s pid h) {agentId : String} (waits : h.farewell = .sent agentId)
    {admitted : Bool} {service : AgentService}
    (step : s.service.step env.uuid (.shutdown admitted agentId) = some service) :
    Kept env pid s (s.adopt service) { h with farewell := .arrived s.service.rpcs.length } := by
  obtain ⟨unborn, left⟩ := standing.has_left (by rw [waits]; intro same; cases same)
  obtain ⟨isolated, mirrored⟩ := standing.isolated unborn
  have named : agentId = env.uuid h.number := by
    have stands := isolated.farewell
    rw [waits] at stands
    exact stands
  subst named
  have asked := isolated.asked.mpr left
  have adopted (q : Nat) : HostSound env (s.adopt service) ∧ Later env q s (s.adopt service) := by
    refine sound.adopt distinct (fun admitted' agentId' same => ?_) step
    cases same
    exact ⟨h.number, asked, rfl⟩
  obtain ⟨isolated, mirrored⟩ := isolated.adopt mirrored fun q => (adopted q).2
  refine .part (adopted pid).1 (adopted pid).2 isolated mirrored left ?_ (by rw [waits]; rfl)
  exact sound.registered.parts_shutdown distinct step

/-- The agent's `shutdown` has returned or raised. -/
theorem stopped_kept (sound : HostSound env s) (distinct : env.uuid.Injective)
    (standing : Standing env s pid h) {rpc : Nat} (arrived : h.farewell = .arrived rpc)
    {returned : Bool} {farewell : Farewell}
    (finishes : s.finishShutdown env rpc returned = some (t, farewell)) :
    Kept env pid s t { h with farewell } := by
  obtain ⟨unborn, left⟩ := standing.has_left (by rw [arrived]; intro same; cases same)
  obtain ⟨isolated, mirrored⟩ := standing.isolated unborn
  obtain ⟨at_, here, parts⟩ : ∃ at_, s.service.rpcs[rpc]? = some at_ ∧
      at_.Parts env.uuid h.number := by
    have stands := isolated.farewell
    rw [arrived] at stands
    exact stands
  unfold RemoteHost.finishShutdown at finishes
  split at finishes
  · rename_i logger service stopping step
    rw [here] at stopping
    cases stopping
    have adopted (q : Nat) : HostSound env (s.adopt service) ∧ Later env q s (s.adopt service) :=
      sound.adopt distinct (fun _ _ same => by cases same) step
    obtain ⟨kept, still⟩ := isolated.adopt mirrored fun q => (adopted q).2
    split at finishes
    · cases finishes
      exact .part (adopted pid).1 (adopted pid).2 kept still left trivial (by rw [arrived]; rfl)
    · cases finishes
      exact .part (adopted pid).1 (adopted pid).2 kept still left trivial (by rw [arrived]; rfl)
    · rename_i logger
      cases finishes
      cases parts logger rfl
      exact .drained (adopted pid).1 (adopted pid).2 kept still left (by rw [arrived]; rfl)
  · cases finishes

/-- The reply to the request is received. -/
theorem parted_kept (sound : HostSound env s) (standing : Standing env s pid h)
    (leaving : h.place = .leaving) {answers : LogAnswers} {sessionLogs : List String}
    (replied : h.farewell = .replied sessionLogs) : Kept env pid s s
      { h.recordRemoteLogs answers sessionLogs with place := .shutdown, farewell := .done } := by
  have left : h.place.hasLeft = true := by rw [leaving]; rfl
  obtain ⟨isolated, mirrored⟩ := standing.isolated (by rw [leaving]; intro same; cases same)
  refine ⟨sound, .refl _ _, .of_isolated ⟨isolated.owner, fun _ same => (by cases same),
    fun _ => isolated.born (by rw [leaving]; rfl), fun young => (by cases young), isolated.calls,
    trivial, fun stays => (by cases stays), isolated.asked.trans ⟨fun _ => rfl, fun _ => left⟩,
    isolated.begun⟩ (fun same => by cases same) fun intact => (mirrored_left rfl).mpr ?_⟩
  obtain ⟨closed, told, logs⟩ := (mirrored_left left).mp (mirrored intact)
  refine ⟨closed, told, ?_⟩
  change (h.recordRemoteLogs answers sessionLogs).offered ++ (s.agents h.number).entries = _
  rw [replied] at logs
  rw [offered_recordRemoteLogs, List.append_assoc]
  exact logs

/-- Every step of an instance. -/
theorem RemoteAgentInstance.step_kept (sound : HostSound env s) (distinct : env.uuid.Injective)
    (standing : Standing env s pid h) {input : RemoteInput Dict}
    (step : h.step env s pid input = some (t, h')) : Kept env pid s t h' := by
  cases input with
  | create admitted call =>
    simp only [RemoteAgentInstance.step] at step
    split at step
    · rename_i service unborn arrived
      cases step
      exact create_kept sound distinct standing unborn arrived
    · cases step
  | created answers =>
    simp only [RemoteAgentInstance.step] at step
    split at step
    · rename_i agentId creating here
      cases step
      exact begin_kept sound standing creating here
    · cases step
  | callback callback =>
    simp only [RemoteAgentInstance.step] at step
    split at step
    · rename_i agentId active
      cases step
      exact invoke_kept sound standing active callback
    · cases step
  | arrive call admitted =>
    obtain ⟨rpc, here, step⟩ := Option.bind_eq_some_iff.mp step
    split at step
    · rename_i sent
      cases step
      exact handle_kept sound distinct standing here sent
    · cases step
  | returned call result =>
    obtain ⟨rpc, here, step⟩ := Option.bind_eq_some_iff.mp step
    split at step
    · rename_i agent running
      cases step
      exact finishHandler_kept sound distinct standing here running
    · cases step
  | cancelled call =>
    obtain ⟨rpc, here, step⟩ := Option.bind_eq_some_iff.mp step
    have isolated := (standing.isolated (standing.has_calls here)).1
    have own {agent : Nat} (running : rpc.place = .running agent) : Kept env pid s
        (s.noteAgent agent .cancelled) (h.setCall call rpc .failed) := by
      cases (isolated.calls rpc (List.mem_of_getElem? here)).2 agent running
      exact .failed sound standing here running .cancelled rfl rfl
    split at step
    · rename_i running _
      cases step
      exact own running
    · rename_i running _
      cases step
      exact own running
    · rename_i running _
      cases step
      exact own running
    · rename_i running _
      split at step
      · cases step
      · cases step
        exact own running
    · cases step
  | reply answers =>
    simp only [RemoteAgentInstance.step] at step
    split at step
    · rename_i agentId callback call awaiting
      obtain ⟨rpc, here, step⟩ := Option.bind_eq_some_iff.mp step
      split at step
      · rename_i reply sessionLogs replied
        cases step
        exact receive_kept sound standing awaiting here replied
      · cases step
    · cases step
  | giveUp => exact giveUp_kept sound standing rfl step
  | shutdown =>
    simp only [RemoteAgentInstance.step] at step
    split at step
    · rename_i agentId active
      cases step
      exact shutdown_kept sound standing active
    · cases step
  | shutdownArrives admitted =>
    simp only [RemoteAgentInstance.step] at step
    split at step
    · rename_i agentId waits
      obtain ⟨service, arrived, same⟩ := Option.map_eq_some_iff.mp step
      cases same
      exact farewell_kept sound distinct standing waits arrived
    · cases step
  | stopped returned =>
    simp only [RemoteAgentInstance.step] at step
    split at step
    · rename_i rpc arrived
      obtain ⟨next, finishes, same⟩ := Option.map_eq_some_iff.mp step
      cases same
      exact stopped_kept sound distinct standing arrived finishes
    · cases step
  | farewell answers =>
    simp only [RemoteAgentInstance.step] at step
    split at step
    · rename_i sessionLogs leaving replied
      cases step
      exact parted_kept sound standing leaving replied
    · cases step
  | service action => cases step
  | log agent message => cases step

/-- An agent's code logs. -/
theorem log_kept (sound : HostSound env s) (inside : i < s.service.rpcs.length) (message : String) :
    HostSound env (s.setAgent i ((s.agents i).log message)) ∧
      Later env pid s (s.setAgent i ((s.agents i).log message)) := by
  have each (j : Nat) : ((s.setAgent i ((s.agents i).log message)).agents j).events =
      (s.agents j).events ∧
      Extends (s.agents j) ((s.setAgent i ((s.agents i).log message)).agents j) := by
    change (Function.update s.agents i _ j).events = _ ∧ Extends _ (Function.update s.agents i _ j)
    rw [Function.update_apply]
    split
    · rename_i same
      rw [same]
      exact ⟨events_log .., extends_log ..⟩
    · exact ⟨rfl, .refl _⟩
  refine ⟨⟨sound.registered, fun j outside => ?_, sound.owned, sound.asked⟩, .refl _, .refl _ _,
    fun _ _ holds => holds, fun _ _ _ _ => Iff.rfl, fun j _ _ _ => (each j).1,
    fun j _ _ _ greeted => greeted.extends (each j).2, fun j _ _ _ _ _ => (each j).2⟩
  have apart : j ≠ i := Nat.ne_of_gt (Nat.lt_of_lt_of_le inside outside)
  exact (Function.update_of_ne apart ..).trans (sound.blank j outside)

def RemoteTask.Stands (env : RemoteEnv Dict Action) (s : RemoteHost Dict) (pid : Nat) :
    RemoteTask Action → Prop
  | client h => Standing env s pid h
  | server => True

theorem RemoteTask.step_kept {task task' : RemoteTask Action} {input : RemoteInput Dict}
    (sound : HostSound env s) (distinct : env.uuid.Injective) (stands : task.Stands env s pid)
    (step : task.step env s pid input = some (t, task')) :
    HostSound env t ∧ Later env pid s t ∧ task'.Stands env t pid := by
  cases task with
  | client h =>
    obtain ⟨⟨next, h'⟩, stepped, same⟩ := Option.map_eq_some_iff.mp step
    cases same
    have kept := RemoteAgentInstance.step_kept sound distinct stands stepped
    exact ⟨kept.sound, kept.later, kept.here⟩
  | server =>
    simp only [RemoteTask.step] at step
    split at step
    · rename_i action
      split at step
      · rename_i internal
        obtain ⟨service, stepped, same⟩ := Option.map_eq_some_iff.mp step
        cases same
        obtain ⟨kept, later⟩ : HostSound env (s.adopt service) ∧ Later env pid s (s.adopt service) := by
          refine sound.adopt distinct (fun admitted agentId same => ?_) stepped
          rw [same] at internal
          cases internal
        exact ⟨kept, later, trivial⟩
      · cases step
    · rename_i agent message
      split at step
      · rename_i inside
        cases step
        obtain ⟨kept, later⟩ : HostSound env (s.setAgent agent ((s.agents agent).log message)) ∧
            Later env pid s (s.setAgent agent ((s.agents agent).log message)) :=
          log_kept sound inside message
        exact ⟨kept, later, trivial⟩
      · cases step
    · cases step

theorem RemoteTask.stands_starts {task : RemoteTask Action} (starts : task.starts = true) :
    task.Stands env s pid := by
  unfold RemoteTask.starts at starts
  split at starts
  · exact ⟨rfl, rfl, rfl, rfl, rfl⟩
  · trivial
  · cases starts

def remoteOutline (env : RemoteEnv Dict Action) (distinct : env.uuid.Injective)
    (guard : Pool (RemoteHost Dict) (RemoteTask Action) →
      Pool.Action (RemoteTask Action) (RemoteInput Dict) → Prop) :
    Outline (remoteProgram env) guard where
  inv s := HostSound env s
  asn s pid task := task.Stands env s pid
  entry := fun _ _ _ starts => RemoteTask.stands_starts starts
  step := by
    intro w pid input task s' task' started inv each met at_ step
    obtain ⟨⟨next, after⟩, stepped, same⟩ := Option.map_eq_some_iff.mp step
    cases same
    obtain ⟨sound, -, here⟩ := RemoteTask.step_kept inv distinct (each pid task at_) stepped
    exact ⟨sound, here, fun _ mem => absurd mem List.not_mem_nil⟩
  interference := by
    intro w pid input task s' task' started q other inv each met at_ step apart there stands
    obtain ⟨⟨next, after⟩, stepped, same⟩ := Option.map_eq_some_iff.mp step
    cases same
    obtain ⟨-, later, -⟩ := RemoteTask.step_kept inv distinct (each pid task at_) stepped
    cases other with
    | client h => exact Standing.later stands apart later
    | server => trivial

theorem hostSound_empty (env : RemoteEnv Dict Action) (maxAgents : Nat) :
    HostSound env ({ service := { maxAgents } } : RemoteHost Dict) where
  registered := {
    agents _ _ found := by cases found
    loggers _ _ found := by cases found
    rpcs _ _ here := by cases here
    stored _ mem := by cases mem
    once _ := Nat.zero_le _
    shutdowns _ mem := by cases mem }
  blank _ _ := rfl
  owned _ _ owned := by cases owned
  asked _ mem := by cases mem

/-- Whatever the sessions of a service process do, in whatever order, and whatever fails: no two
have the same agent, each request reaches the agent of its own session, once at most, and the agent
is shut down once at most and not before its session asks. A session in which nothing has failed
has received what its agent did, callback by callback; every line that the agent logged was handed
to the session's logger, is in a reply or has not been collected, once. -/
theorem remote_agents_mirror (distinct : env.uuid.Injective) {maxAgents : Nat}
    {guard : Pool (RemoteHost Dict) (RemoteTask Action) →
      Pool.Action (RemoteTask Action) (RemoteInput Dict) → Prop}
    {w : Pool (RemoteHost Dict) (RemoteTask Action)}
    (run : (remoteProgram env).machine.Run guard ⟨{ service := { maxAgents } }, []⟩ w)
    (at_ : w.tasks[pid]? = some (.client h)) (asked : h.place ≠ .unborn) :
    (∀ (q : Nat) (other : RemoteAgentInstance Action), w.tasks[q]? = some (.client other) →
      other.place ≠ .unborn → other.number = h.number → q = pid) ∧
    ((w.shared.agents h.number).events.filterMap HostedEvent.call?).Perm
      (h.calls.filterMap (begunCall env)) ∧
    w.shared.service.shutdowns.count h.number ≤ 1 ∧
    (h.number ∈ w.shared.service.shutdowns → h.place.hasLeft = true) ∧
    (h.failed = false → Mirrored env w.shared h) := by
  have valid : (remoteOutline env distinct guard).Valid w := by
    refine Outline.Valid.run run ⟨hostSound_empty env maxAgents, ?_⟩
    intro q task none_
    cases none_
  have sound : HostSound env w.shared := valid.inv
  obtain ⟨isolated, mirrored⟩ := Standing.isolated (valid.each pid _ at_) asked
  refine ⟨fun q other there born same => ?_, isolated.begun, sound.registered.once _,
    fun ended => isolated.asked.mp (sound.registered.shutdowns _ ended).1, mirrored⟩
  have owner := (Standing.isolated (valid.each q _ there) born).1.owner
  rw [same, isolated.owner] at owner
  exact (Option.some.inj owner).symm

def plainEnv : RemoteEnv Struct Value where
  uuid i := AgentService.longId (i + 1)
  structToDict := some
  dictToStruct := some
  readAction := some

/-- Two sessions have their agents; one of them hears a message, logs it and is shut down, when the
session's log is full. -/
def oneMessage : List (Pool.Action (RemoteTask Value) (RemoteInput Struct)) :=
  [.spawn (.client {}), .spawn (.client {}), .spawn .server, .run 0 (.create true .returns),
    .run 1 (.create true .returns), .run 1 (.created fun _ => .ok ()),
    .run 0 (.created fun _ => .ok ()), .run 0 (.callback (.observeMessage .A "hello")),
    .run 0 (.arrive 0 true), .run 2 (.log 0 "heard"), .run 0 (.returned 0 (some none)),
    .run 0 (.reply fun _ => .ok ()), .run 0 .shutdown, .run 0 (.shutdownArrives true),
    .run 2 (.log 0 "bye"), .run 0 (.stopped true), .run 0 (.farewell fun _ => .error .queueFull)]

theorem remote_agents_mirror_oneMessage : ∃ w h,
    (remoteProgram plainEnv).machine.exec ⟨{ service := { maxAgents := 2 } }, []⟩ oneMessage =
      some w ∧ w.tasks[0]? = some (.client h) ∧
    h.history = [(.observeMessage .A "hello", none)] ∧ h.offered = ["heard", "bye"] ∧
    Mirrored plainEnv w.shared h := by
  obtain ⟨w, ran⟩ : ∃ w, (remoteProgram plainEnv).machine.exec
      ⟨{ service := { maxAgents := 2 } }, []⟩ oneMessage = some w := ⟨_, rfl⟩
  have distinct : plainEnv.uuid.Injective := fun i j same =>
    Nat.succ_injective (AgentService.longId_injective same)
  obtain ⟨h, here, history, offered, gone, intact⟩ : ∃ h, w.tasks[0]? = some (.client h) ∧
      h.history = [(.observeMessage .A "hello", none)] ∧ h.offered = ["heard", "bye"] ∧
      h.place = .shutdown ∧ h.failed = false := by
    cases ran
    exact ⟨_, rfl, rfl, rfl, rfl, rfl⟩
  have asked : h.place ≠ .unborn := by
    rw [gone]
    intro same
    cases same
  exact ⟨w, h, ran, here, history, offered,
    (remote_agents_mirror distinct (.of_exec_unguarded ran) here asked).2.2.2.2 intact⟩

end Remote

end Parlando
