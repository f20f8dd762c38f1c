import Parlando.AudioRegistry

namespace Parlando

open Concurrency

structure AudioConnection where
  session : String
  role : String
  generation : String

namespace AudioCall

def connection? : AudioCall → Option AudioConnection
  | connect session role generation => some ⟨session, role, generation⟩
  | _ => none

def message? (session role : String) : AudioCall → Option AudioOutbound
  | relayPartner session' senderRole bytes =>
    if session' = session ∧ AudioSessionRegistry.partnerRole? senderRole = some role then
      some (.binary bytes)
    else none
  | sendControl session' role' text =>
    if session' = session ∧ role' = role then some (.text text) else none
  | publishAgent session' bytes => if session' = session then some (.binary bytes) else none
  | _ => none

def audience? : AudioCall → Option String
  | relayPartner session _ _ | sendControl session _ _ | publishAgent session _ => some session
  | _ => none

def sends : AudioCall → Bool
  | relayPartner .. | sendControl .. | publishAgent .. => true
  | _ => false

end AudioCall

namespace AudioSessionRegistry

variable (registry : AudioSessionRegistry) (session role generation session' role' : String)

theorem peer?_connect : (registry.connect session role generation).peer? session' role' =
    if session' = session ∧ role' = role then some ⟨generation, registry.channels.length⟩
    else registry.peer? session' role' := by
  unfold peer? connect
  dsimp only
  rw [Map.lookup_insert_eq]
  by_cases same : session' = session
  · subst same
    rw [if_pos rfl, Option.bind_some, Map.lookup_insert_eq]
    by_cases here : role' = role
    · rw [if_pos here, if_pos ⟨rfl, here⟩]
    · rw [if_neg here, if_neg fun both => here both.2]
      cases registry.sessions.lookup session' with
      | none => rfl
      | some entry => rfl
  · rw [if_neg same, if_neg fun both => same both.1]

theorem lookup_of_isEmpty {m : Map String AudioPeer} (empty : m.entries.isEmpty = true)
    (k : String) : m.lookup k = none := by
  unfold AList.lookup
  rw [List.isEmpty_iff.mp empty, List.dlookup_nil]

theorem peer?_disconnect : (registry.disconnect session role generation).peer? session' role' =
    if session' = session ∧ role' = role ∧ registry.isCurrent session role generation = true then none
    else registry.peer? session' role' := by
  unfold disconnect
  split
  · rename_i missing
    have stale : registry.isCurrent session role generation = false := by
      simp [isCurrent, peer?, missing]
    simp [stale]
  rename_i entry found
  have old : registry.peer? session role' = entry.peers.lookup role' := by
    unfold peer?
    rw [found, Option.bind_some]
  by_cases here : session' = session
  · subst here
    rw [old]
    by_cases current : registry.isCurrent session' role generation = true
    · rw [if_pos current]
      simp only [current, and_true, true_and]
      rw [← Map.lookup_erase_eq]
      unfold peer?
      by_cases empty : (AList.erase role entry.peers).entries.isEmpty = true
      · rw [if_pos empty, AList.lookup_erase, Option.bind_none, lookup_of_isEmpty empty]
      · rw [if_neg empty, AList.lookup_insert, Option.bind_some]
    · rw [if_neg current, if_neg fun all : _ ∧ _ ∧ _ => current all.2.2]
      by_cases empty : entry.peers.entries.isEmpty = true
      · rw [if_pos empty, lookup_of_isEmpty empty]
        unfold peer?
        rw [AList.lookup_erase, Option.bind_none]
      · rw [if_neg empty, old]
  · rw [if_neg fun all : _ ∧ _ ∧ _ => here all.1]
    unfold peer?
    by_cases current : registry.isCurrent session role generation = true
    · rw [if_pos current]
      dsimp only
      by_cases empty : (AList.erase role entry.peers).entries.isEmpty = true
      · rw [if_pos empty, AList.lookup_erase_ne here]
      · rw [if_neg empty, AList.lookup_insert_ne here]
    · rw [if_neg current]
      by_cases empty : entry.peers.entries.isEmpty = true
      · rw [if_pos empty, AList.lookup_erase_ne here]
      · rw [if_neg empty]

/-- No session is registered without peers. -/
def Occupied (registry : AudioSessionRegistry) : Prop :=
  ∀ session entry, registry.sessions.lookup session = some entry → entry.peers.entries.isEmpty = false

variable {registry}

theorem Occupied.connect (occupied : Occupied registry) :
    Occupied (registry.connect session role generation) := by
  intro session' entry found
  unfold AudioSessionRegistry.connect at found
  dsimp only at found
  rw [Map.lookup_insert_eq] at found
  split at found
  · cases found
    rfl
  · exact occupied session' entry found

theorem Occupied.disconnect (occupied : Occupied registry) :
    Occupied (registry.disconnect session role generation) := by
  unfold AudioSessionRegistry.disconnect
  split
  · exact occupied
  rename_i old present
  split
  · intro session' entry found
    dsimp only at found
    split at found
    · rw [Map.lookup_erase_eq] at found
      split at found
      · cases found
      · exact occupied session' entry found
    · rename_i some_
      rw [Map.lookup_insert_eq] at found
      split at found
      · cases found
        exact Bool.eq_false_iff.mpr some_
      · exact occupied session' entry found
  · rw [if_neg (Bool.eq_false_iff.mp (occupied session old present))]
    exact occupied

/-- A stale disconnect changes nothing. -/
theorem Occupied.disconnect_stale (occupied : Occupied registry)
    (stale : registry.isCurrent session role generation = false) :
    registry.disconnect session role generation = registry := by
  unfold AudioSessionRegistry.disconnect
  split
  · rfl
  rename_i old present
  rw [if_neg (Bool.eq_false_iff.mp stale),
    if_neg (Bool.eq_false_iff.mp (occupied session old present))]

variable (registry)

def targets : AudioCall → List (Nat × AudioOutbound)
  | .relayPartner session senderRole bytes =>
    ((partnerRole? senderRole).bind (registry.peer? session)).toList.map fun peer =>
      (peer.sender, .binary bytes)
  | .sendControl session role text =>
    (registry.peer? session role).toList.map fun peer => (peer.sender, .text text)
  | .publishAgent session bytes =>
    match registry.sessions.lookup session with
    | some entry => entry.peers.values.map fun peer => (peer.sender, .binary bytes)
    | none => []
  | _ => []

def sendAll (messages : List (Nat × AudioOutbound)) : AudioSessionRegistry :=
  messages.foldl (fun registry message => registry.trySend message.1 message.2) registry

theorem sendTo_eq (message : AudioOutbound) : registry.sendTo session role message =
    registry.sendAll ((registry.peer? session role).toList.map fun peer =>
      (peer.sender, message)) := by
  unfold sendTo
  cases registry.peer? session role <;> rfl

theorem call_of_sends {c : AudioCall} (sends : c.sends = true) :
    registry.call c = registry.sendAll (registry.targets c) := by
  cases c with
  | relayPartner session senderRole bytes =>
    change registry.relayPartner session senderRole bytes = _
    unfold relayPartner
    dsimp only [targets]
    cases partnerRole? senderRole with
    | none => rfl
    | some role => exact sendTo_eq ..
  | sendControl session role text => exact sendTo_eq ..
  | publishAgent session bytes =>
    change registry.publishAgent session bytes = _
    unfold publishAgent
    dsimp only [targets]
    cases registry.sessions.lookup session with
    | none => rfl
    | some entry =>
      rw [List.foldl_map, sendAll, List.foldl_map]
  | connect | disconnect | receive => cases sends

def Placed (registry : AudioSessionRegistry) (connections : List AudioConnection) : Prop :=
  ∀ session role peer, registry.peer? session role = some peer →
    connections[peer.sender]? = some ⟨session, role, peer.generation⟩

variable {registry session role generation session' role'} {connections : List AudioConnection} {i : Nat}
  {message : AudioOutbound}

theorem isCurrent_iff : registry.isCurrent session role generation = true ↔
    ∃ peer, registry.peer? session role = some peer ∧ peer.generation = generation := by
  unfold isCurrent
  cases registry.peer? session role <;> simp

/-- With generations of their own, a connection's channel is its peer's. -/
theorem Placed.sender (placed : Placed registry connections)
    (distinct : (connections.map AudioConnection.generation).Nodup)
    (here : connections[i]? = some ⟨session, role, generation⟩) :
    (∃ peer, registry.peer? session role = some peer ∧ peer.sender = i) ↔
      registry.isCurrent session role generation = true := by
  rw [isCurrent_iff]
  constructor
  · rintro ⟨peer, found, rfl⟩
    have there := placed session role peer found
    rw [here] at there
    cases there
    exact ⟨peer, found, rfl⟩
  · rintro ⟨peer, found, rfl⟩
    refine ⟨peer, found, ?_⟩
    have there := placed session role peer found
    have first : (connections.map AudioConnection.generation)[peer.sender]? =
        some peer.generation := by rw [List.getElem?_map, there, Option.map_some]
    have second : (connections.map AudioConnection.generation)[i]? = some peer.generation := by
      rw [List.getElem?_map, here, Option.map_some]
    exact (List.getElem?_inj (List.getElem?_eq_some_iff.mp first).1 distinct).mp
      (first.trans second.symm)

/-- A peer with the channel of a connection stands where the connection was made. -/
theorem Placed.place (placed : Placed registry connections) {peer : AudioPeer}
    (here : connections[i]? = some ⟨session, role, generation⟩)
    (found : registry.peer? session' role' = some peer) (same : peer.sender = i) :
    session' = session ∧ role' = role := by
  have there := placed session' role' peer found
  rw [same, here] at there
  cases there
  exact ⟨rfl, rfl⟩

/-- One role's peer is a target when it stands for the connection. -/
theorem Placed.mem_peer (placed : Placed registry connections)
    (here : connections[i]? = some ⟨session, role, generation⟩) (m : AudioOutbound) :
    (i, message) ∈ (registry.peer? session' role').toList.map (fun peer => (peer.sender, m)) ↔
      (∃ peer, registry.peer? session role = some peer ∧ peer.sender = i) ∧
      (if session' = session ∧ role' = role then some m else none) = some message := by
  simp only [List.mem_map, Option.mem_toList, Prod.mk.injEq]
  constructor
  · rintro ⟨peer, found, same, rfl⟩
    obtain ⟨rfl, rfl⟩ := placed.place here found same
    exact ⟨⟨peer, found, same⟩, if_pos ⟨rfl, rfl⟩⟩
  · rintro ⟨⟨peer, found, same⟩, addressed⟩
    split at addressed
    · rename_i there
      obtain ⟨rfl, rfl⟩ := there
      exact ⟨peer, found, same, Option.some.inj addressed⟩
    · cases addressed

/-- A message goes to a connection's channel when it is addressed to it while it is current. -/
theorem Placed.mem_targets (placed : Placed registry connections)
    (distinct : (connections.map AudioConnection.generation).Nodup)
    (here : connections[i]? = some ⟨session, role, generation⟩) (c : AudioCall) :
    (i, message) ∈ registry.targets c ↔
      registry.isCurrent session role generation = true ∧ c.message? session role = some message := by
  rw [← placed.sender distinct here]
  cases c with
  | relayPartner session' senderRole bytes =>
    dsimp only [targets, AudioCall.message?]
    cases partnerRole? senderRole with
    | none => simp
    | some role' =>
      rw [Option.bind_some, placed.mem_peer here]
      simp only [Option.some.injEq]
  | sendControl session' role' text => exact placed.mem_peer here _
  | publishAgent session' bytes =>
    dsimp only [targets, AudioCall.message?]
    have inside (role' : String) : registry.peer? session' role' =
        (registry.sessions.lookup session').bind fun entry => entry.peers.lookup role' := rfl
    cases found : registry.sessions.lookup session' with
    | none =>
      rw [found] at inside
      constructor
      · nofun
      · rintro ⟨⟨peer, there, -⟩, addressed⟩
        split at addressed
        · rename_i same
          rw [← same, inside] at there
          cases there
        · cases addressed
    | some entry =>
      rw [found] at inside
      simp only [List.mem_map, Map.mem_values, Prod.mk.injEq]
      constructor
      · rintro ⟨peer, ⟨role', there⟩, same, rfl⟩
        obtain ⟨rfl, rfl⟩ := placed.place here ((inside role').trans there) same
        exact ⟨⟨peer, (inside role').trans there, same⟩, if_pos rfl⟩
      · rintro ⟨⟨peer, there, same⟩, addressed⟩
        split at addressed
        · rename_i home
          subst home
          exact ⟨peer, ⟨role, (inside role).symm.trans there⟩, same, Option.some.inj addressed⟩
        · cases addressed
  | connect | disconnect | receive => simp [targets, AudioCall.message?]

/-- A call sends at most one message to a channel. -/
theorem Placed.targets_nodup (placed : Placed registry connections) (c : AudioCall) :
    ((registry.targets c).map Prod.fst).Nodup := by
  have one (peer : Option AudioPeer) (m : AudioOutbound) :
      ((peer.toList.map fun peer => (peer.sender, m)).map Prod.fst).Nodup := by
    cases peer <;> simp
  cases c with
  | relayPartner session' senderRole bytes => exact one ..
  | sendControl session' role' text => exact one ..
  | publishAgent session' bytes =>
    dsimp only [targets]
    cases found : registry.sessions.lookup session' with
    | none => exact List.nodup_nil
    | some entry =>
      let roleOf (sender : Nat) := (connections[sender]?).map AudioConnection.role
      have keys : entry.peers.entries.map (fun e => some e.1) =
          (entry.peers.entries.map fun e => e.2.sender).map roleOf := by
        rw [List.map_map]
        refine List.map_congr_left fun e mem => ?_
        have there : registry.peer? session' e.1 = some e.2 := by
          unfold peer?
          rw [found, Option.bind_some]
          exact AList.mem_lookup_iff.mpr mem
        change _ = (connections[e.2.sender]?).map AudioConnection.role
        rw [placed session' e.1 e.2 there, Option.map_some]
      have nodup : (entry.peers.entries.map fun e => some e.1).Nodup := by
        have plain := List.Nodup.map (fun _ _ => Option.some.inj) entry.peers.nodupKeys
        rwa [List.keys, List.map_map] at plain
      rw [keys] at nodup
      have senders := nodup.of_map
      simpa [Map.values, Function.comp_def] using senders
  | connect | disconnect | receive => exact List.nodup_nil

theorem channels_trySend (registry : AudioSessionRegistry) (sender : Nat) (message : AudioOutbound) :
    (registry.trySend sender message).channels[i]? = (registry.channels[i]?).map fun channel =>
      if sender = i then channel.trySend message else channel :=
  List.getElem?_modify ..

theorem channels_sendAll_of_notMem {messages : List (Nat × AudioOutbound)}
    (none_ : i ∉ messages.map Prod.fst) :
    (registry.sendAll messages).channels[i]? = registry.channels[i]? := by
  induction messages generalizing registry with
  | nil => rfl
  | cons first messages ih =>
    rw [List.map_cons, List.mem_cons, not_or] at none_
    change ((registry.trySend first.1 first.2).sendAll messages).channels[i]? = _
    rw [ih none_.2, channels_trySend]
    simp [Ne.symm none_.1]

theorem channels_sendAll_of_mem {messages : List (Nat × AudioOutbound)}
    (nodup : (messages.map Prod.fst).Nodup) (mem : (i, message) ∈ messages) :
    (registry.sendAll messages).channels[i]? =
      (registry.channels[i]?).map fun channel => channel.trySend message := by
  induction messages generalizing registry with
  | nil => cases mem
  | cons first messages ih =>
    rw [List.map_cons, List.nodup_cons] at nodup
    change ((registry.trySend first.1 first.2).sendAll messages).channels[i]? = _
    obtain rfl | mem := List.mem_cons.mp mem
    · rw [channels_sendAll_of_notMem nodup.1, channels_trySend]
      simp
    · have other : first.1 ≠ i := fun same =>
        nodup.1 (same ▸ List.mem_map.mpr ⟨_, mem, rfl⟩)
      rw [ih nodup.2 mem, channels_trySend]
      simp [other]

theorem channels_dropSender (registry : AudioSessionRegistry) (peer : Option AudioPeer) :
    (registry.dropSender peer)[i]? = (registry.channels[i]?).map fun channel =>
      { channel with dropped := channel.dropped || peer.any fun peer => peer.sender == i } := by
  unfold dropSender
  cases peer with
  | none => simp
  | some peer =>
    dsimp only
    rw [List.getElem?_modify]
    cases registry.channels[i]? with
    | none => rfl
    | some channel =>
      by_cases same : peer.sender = i
      · simp [same]
      · simp [same, beq_eq_false_iff_ne.mpr same]

@[simp] theorem peer?_sendAll (registry : AudioSessionRegistry) (messages : List (Nat × AudioOutbound)) :
    (registry.sendAll messages).peer? session role = registry.peer? session role := by
  induction messages generalizing registry with
  | nil => rfl
  | cons first messages ih => exact ih _

@[simp] theorem peer?_receive (registry : AudioSessionRegistry) (receiver : Nat) :
    (registry.receive receiver).2.peer? session role = registry.peer? session role := by
  unfold receive
  split
  · rfl
  · split <;> rfl

theorem isCurrent_of_peer? {registry' : AudioSessionRegistry}
    (same : registry'.peer? session role = registry.peer? session role) :
    registry'.isCurrent session role generation = registry.isCurrent session role generation := by
  unfold isCurrent
  rw [same]

theorem isCurrent_connect (registry : AudioSessionRegistry) (generation' : String) :
    (registry.connect session' role' generation').isCurrent session role generation = true ↔
      session' = session ∧ role' = role ∧ generation' = generation ∨
      registry.isCurrent session role generation = true ∧ ¬(session' = session ∧ role' = role) := by
  rw [isCurrent_iff, peer?_connect]
  by_cases here : session = session' ∧ role = role'
  · obtain ⟨rfl, rfl⟩ := here
    simp
  · rw [if_neg here, ← isCurrent_iff]
    have apart : ¬(session' = session ∧ role' = role) := fun ⟨a, b⟩ => here ⟨a.symm, b.symm⟩
    rw [and_iff_left apart, or_iff_right fun all => apart ⟨all.1, all.2.1⟩]

theorem isCurrent_disconnect (registry : AudioSessionRegistry) (generation' : String) :
    (registry.disconnect session' role' generation').isCurrent session role generation = true ↔
      registry.isCurrent session role generation = true ∧
        ¬(session' = session ∧ role' = role ∧ generation' = generation) := by
  rw [isCurrent_iff, peer?_disconnect]
  by_cases gone : session = session' ∧ role = role' ∧
      registry.isCurrent session' role' generation' = true
  · rw [if_pos gone]
    obtain ⟨rfl, rfl, current⟩ := gone
    refine ⟨by simp, fun ⟨old, other⟩ => absurd ⟨rfl, rfl, ?_⟩ other⟩
    obtain ⟨peer, found, rfl⟩ := isCurrent_iff.mp old
    obtain ⟨peer', found', rfl⟩ := isCurrent_iff.mp current
    rw [found] at found'
    cases found'
    rfl
  · rw [if_neg gone, ← isCurrent_iff, iff_self_and]
    rintro current ⟨rfl, rfl, rfl⟩
    exact gone ⟨rfl, rfl, current⟩

/-- A generation is current after its connect, until the next connect or its own disconnect. -/
theorem isCurrent_call (registry : AudioSessionRegistry) (c : AudioCall) :
    (registry.call c).isCurrent session role generation = true ↔
      c = .connect session role generation ∨
      registry.isCurrent session role generation = true ∧
        (∀ g, c ≠ .connect session role g) ∧ c ≠ .disconnect session role generation := by
  cases c with
  | connect session' role' generation' =>
    refine (isCurrent_connect ..).trans (or_congr ?_ (and_congr_right fun _ => ?_))
    · simp
    · simp
  | disconnect session' role' generation' =>
    refine (isCurrent_disconnect ..).trans ?_
    simp
  | relayPartner | sendControl | publishAgent =>
    rw [call_of_sends _ rfl, isCurrent_of_peer? (peer?_sendAll ..)]
    simp
  | receive receiver =>
    rw [show registry.call _ = (registry.receive receiver).2 from rfl,
      isCurrent_of_peer? (peer?_receive ..)]
    simp

end AudioSessionRegistry

/-- The latest connect of a role, with no disconnect of its own generation after it. -/
def Owns (calls : List AudioCall) (session role generation : String) : Prop :=
  ∃ before after, calls = before ++ .connect session role generation :: after ∧
    (∀ g, .connect session role g ∉ after) ∧ .disconnect session role generation ∉ after

theorem owns_append_singleton {calls : List AudioCall} {c : AudioCall}
    {session role generation : String} :
    Owns (calls ++ [c]) session role generation ↔ c = .connect session role generation ∨
      Owns calls session role generation ∧
        (∀ g, c ≠ .connect session role g) ∧ c ≠ .disconnect session role generation := by
  constructor
  · rintro ⟨before, after, split, newest, kept⟩
    obtain rfl | ⟨after, last, rfl⟩ := after.eq_nil_or_concat
    · exact .inl (List.append_singleton_inj.mp split).2
    · rw [List.concat_eq_append, ← List.cons_append, ← List.append_assoc] at split
      obtain ⟨rfl, rfl⟩ := List.append_singleton_inj.mp split
      rw [List.concat_eq_append] at newest kept
      simp only [List.mem_append, List.mem_singleton, not_or] at newest kept
      exact .inr ⟨⟨before, after, rfl, fun g => (newest g).1, kept.1⟩,
        fun g same => (newest g).2 same.symm, fun same => kept.2 same.symm⟩
  · rintro (rfl | ⟨⟨before, after, rfl, newest, kept⟩, other, stays⟩)
    · exact ⟨calls, [], rfl, by simp, by simp⟩
    · refine ⟨before, after ++ [c], by simp, fun g mem => ?_, fun mem => ?_⟩
      · obtain mem | mem := List.mem_append.mp mem
        · exact newest g mem
        · exact other g (List.mem_singleton.mp mem).symm
      · obtain mem | mem := List.mem_append.mp mem
        · exact kept mem
        · exact stays (List.mem_singleton.mp mem).symm

namespace AudioTraffic

open AudioSessionRegistry

variable (s : AudioTraffic)

def connections : List AudioConnection := s.calls.filterMap AudioCall.connection?

def unread (registry : AudioSessionRegistry) (i : Nat) : Nat :=
  ((registry.channels[i]?).map fun channel => channel.queue.length).getD 0

/-- What a call adds to a connection's channel: what is addressed to it, if it is current and not full. -/
def addressed (i : Nat) (connection : AudioConnection)
    (entry : AudioSessionRegistry × AudioCall) : Option AudioOutbound :=
  if entry.1.isCurrent connection.session connection.role connection.generation = true ∧
      unread entry.1 i < audioOutboundQueueCapacity then
    entry.2.message? connection.session connection.role
  else none

structure Delivered (s : AudioTraffic) (i : Nat) (connection : AudioConnection)
    (channel : Channel AudioOutbound) : Prop where
  capacity : channel.capacity = audioOutboundQueueCapacity
  opened : channel.closed = false
  idle : channel.reserved = 0
  short : channel.queue.length ≤ audioOutboundQueueCapacity
  read : channel.received ≤ channel.sent.length
  sent : channel.sent = s.trace.filterMap (addressed i connection)
  got : s.got i = channel.sent.take channel.received

/-- The generation of a connect has never been used before. -/
def Fresh (s : AudioTraffic) (c : AudioCall) : Prop :=
  ∀ connection, c.connection? = some connection →
    connection.generation ∉ s.connections.map AudioConnection.generation

structure Inv (s : AudioTraffic) : Prop where
  occupied : s.registry.Occupied
  placed : s.registry.Placed s.connections
  distinct : (s.connections.map AudioConnection.generation).Nodup
  count : s.registry.channels.length = s.connections.length
  owns : ∀ session role generation,
    s.registry.isCurrent session role generation = true ↔ Owns s.calls session role generation
  past : ∀ entry ∈ s.trace, ∀ session role generation,
    entry.1.isCurrent session role generation = true →
      AudioCall.connect session role generation ∈ s.calls
  delivered : ∀ i connection channel, s.connections[i]? = some connection →
    s.registry.channels[i]? = some channel → s.Delivered i connection channel
  silent : ∀ i, s.registry.channels.length ≤ i → s.got i = []

variable {s} {c : AudioCall} {i : Nat} {connection : AudioConnection}
  {channel : Channel AudioOutbound}

@[simp] theorem calls_call (s : AudioTraffic) (c : AudioCall) : (s.call c).calls = s.calls ++ [c] := by
  simp [calls, call]

@[simp] theorem connections_call (s : AudioTraffic) (c : AudioCall) :
    (s.call c).connections = s.connections ++ c.connection?.toList := by
  unfold connections
  rw [calls_call, List.filterMap_append]
  cases new : c.connection? <;> simp [new]

theorem Inv.owns_call (inv : Inv s) (c : AudioCall) (session role generation : String) :
    (s.call c).registry.isCurrent session role generation = true ↔
      Owns (s.call c).calls session role generation := by
  rw [calls_call, owns_append_singleton, ← inv.owns]
  exact isCurrent_call ..

theorem Inv.past_call (inv : Inv s) (c : AudioCall) : ∀ entry ∈ (s.call c).trace,
    ∀ session role generation, entry.1.isCurrent session role generation = true →
      AudioCall.connect session role generation ∈ (s.call c).calls := by
  intro entry mem session role generation current
  rw [calls_call, List.mem_append]
  obtain mem | mem := List.mem_append.mp mem
  · exact .inl (inv.past entry mem session role generation current)
  · cases List.mem_singleton.mp mem
    obtain ⟨before, after, split, -⟩ := (inv.owns session role generation).mp current
    rw [split]
    simp

theorem Inv.distinct_call (inv : Inv s) (fresh : s.Fresh c) :
    ((s.call c).connections.map AudioConnection.generation).Nodup := by
  rw [connections_call, List.map_append]
  cases new : c.connection? with
  | none => simpa using inv.distinct
  | some connection =>
    rw [Option.toList_some, List.map_singleton, ← List.concat_eq_append]
    exact inv.distinct.concat (fresh connection new)

theorem Placed.mono {registry : AudioSessionRegistry} {connections more : List AudioConnection}
    (placed : Placed registry connections) : Placed registry (connections ++ more) := by
  intro session role peer found
  have there := placed session role peer found
  rwa [List.getElem?_append_left (List.getElem?_eq_some_iff.mp there).1]

/-- Calls other than a connect leave peers out at most. -/
theorem peer?_call_of_connection? {registry : AudioSessionRegistry} {session role : String}
    {peer : AudioPeer} (other : c.connection? = none)
    (found : (registry.call c).peer? session role = some peer) :
    registry.peer? session role = some peer := by
  cases c with
  | connect => cases other
  | disconnect session' role' generation' =>
    unfold AudioSessionRegistry.call at found
    rw [peer?_disconnect] at found
    split at found
    · cases found
    · exact found
  | relayPartner | sendControl | publishAgent =>
    rwa [call_of_sends _ rfl, peer?_sendAll] at found
  | receive receiver =>
    change (registry.receive receiver).2.peer? session role = some peer at found
    rwa [peer?_receive] at found

theorem Inv.placed_call (inv : Inv s) (c : AudioCall) :
    Placed (s.call c).registry (s.call c).connections := by
  rw [connections_call]
  cases new : c.connection? with
  | none =>
    intro session role peer found
    exact (Placed.mono inv.placed) session role peer (peer?_call_of_connection? new found)
  | some connection =>
    cases c with
    | connect session' role' generation' =>
      cases new
      intro session role peer found
      change (s.registry.connect session' role' generation').peer? session role = some peer at found
      rw [peer?_connect] at found
      split at found
      · rename_i here
        obtain ⟨rfl, rfl⟩ := here
        cases found
        simp [inv.count]
      · exact (Placed.mono inv.placed) session role peer found
    | _ => cases new

theorem sessions_sendAll (registry : AudioSessionRegistry) (messages : List (Nat × AudioOutbound)) :
    (registry.sendAll messages).sessions = registry.sessions := by
  induction messages generalizing registry with
  | nil => rfl
  | cons first messages ih => exact ih _

theorem sessions_receive (registry : AudioSessionRegistry) (receiver : Nat) :
    (registry.receive receiver).2.sessions = registry.sessions := by
  unfold receive
  split
  · rfl
  · split <;> rfl

theorem Inv.occupied_call (inv : Inv s) (c : AudioCall) : Occupied (s.call c).registry := by
  cases c with
  | connect session role generation => exact Occupied.connect session role generation inv.occupied
  | disconnect session role generation => exact Occupied.disconnect session role generation inv.occupied
  | relayPartner | sendControl | publishAgent =>
    intro session entry found
    change (s.registry.call _).sessions.lookup session = some entry at found
    rw [call_of_sends _ rfl, sessions_sendAll] at found
    exact inv.occupied session entry found
  | receive receiver =>
    intro session entry found
    change (s.registry.receive receiver).2.sessions.lookup session = some entry at found
    rw [sessions_receive] at found
    exact inv.occupied session entry found

theorem unread_eq (found : s.registry.channels[i]? = some channel) :
    unread s.registry i = channel.queue.length := by
  unfold unread
  rw [found, Option.map_some, Option.getD_some]

/-- A sending call appends what it addresses to the connection. -/
theorem Inv.channels_of_sends (inv : Inv s) (sends : c.sends = true)
    (here : s.connections[i]? = some connection) (found : s.registry.channels[i]? = some channel) :
    (s.registry.call c).channels[i]? = some { channel with
      sent := channel.sent ++ (addressed i connection (s.registry, c)).toList } := by
  have delivered := inv.delivered i connection channel here found
  have member (message : AudioOutbound) :=
    @Placed.mem_targets _ _ _ _ _ _ message inv.placed inv.distinct here c
  rw [call_of_sends _ sends]
  by_cases sent : ∃ message, (i, message) ∈ s.registry.targets c
  · obtain ⟨message, mem⟩ := sent
    obtain ⟨current, message?⟩ := (member message).mp mem
    rw [channels_sendAll_of_mem (inv.placed.targets_nodup c) mem, found, Option.map_some,
      Channel.trySend_eq delivered.opened delivered.idle]
    unfold addressed
    rw [unread_eq found, ← delivered.capacity]
    dsimp only
    by_cases room : channel.queue.length < channel.capacity
    · rw [if_pos room, if_pos ⟨current, room⟩, message?, Option.toList_some]
    · rw [if_neg room, if_neg fun both : _ ∧ _ => room both.2, Option.toList_none, List.append_nil]
  · have none_ : i ∉ (s.registry.targets c).map Prod.fst := by
      intro listed
      obtain ⟨target, mem, rfl⟩ := List.mem_map.mp listed
      exact sent ⟨target.2, mem⟩
    have nothing : addressed i connection (s.registry, c) = none := by
      unfold addressed
      split
      · rename_i current
        rw [Option.eq_none_iff_forall_ne_some]
        exact fun message same => sent ⟨message, (member message).mpr ⟨current.1, same⟩⟩
      · rfl
    rw [channels_sendAll_of_notMem none_, found, nothing, Option.toList_none, List.append_nil]

/-- A connect or a disconnect drops a sender at most. -/
theorem channels_of_table {registry : AudioSessionRegistry} (table : c.sends = false)
    (stays : ∀ reader, c ≠ .receive reader) (found : registry.channels[i]? = some channel) :
    ∃ dropped, (registry.call c).channels[i]? = some { channel with dropped := dropped } := by
  have drops (peer : Option AudioPeer) : ∃ dropped,
      (registry.dropSender peer)[i]? = some { channel with dropped := dropped } := by
    rw [channels_dropSender, found]
    exact ⟨_, rfl⟩
  have keeps : ∃ dropped, registry.channels[i]? = some { channel with dropped := dropped } :=
    ⟨channel.dropped, found⟩
  cases c with
  | connect session role generation =>
    obtain ⟨dropped, same⟩ := drops (registry.peer? session role)
    refine ⟨dropped, ?_⟩
    change (registry.dropSender _ ++ _)[i]? = _
    rw [List.getElem?_append_left (List.getElem?_eq_some_iff.mp same).1, same]
  | disconnect session role generation =>
    change ∃ dropped, (registry.disconnect session role generation).channels[i]? = _
    unfold AudioSessionRegistry.disconnect
    split
    · exact keeps
    · split
      · exact drops _
      · split <;> exact keeps
  | receive reader => exact absurd rfl (stays reader)
  | _ => cases table

/-- A call that addresses nothing to a connection, and leaves its channel and its receiver alone. -/
theorem Delivered.of_same {dropped : Bool} (delivered : s.Delivered i connection channel)
    (nothing : addressed i connection (s.registry, c) = none) (got : (s.call c).got i = s.got i) :
    (s.call c).Delivered i connection { channel with dropped := dropped } where
  capacity := delivered.capacity
  opened := delivered.opened
  idle := delivered.idle
  short := delivered.short
  read := delivered.read
  sent := by
    change _ = (s.trace ++ [(s.registry, c)]).filterMap _
    rw [List.filterMap_append, ← delivered.sent]
    simp [nothing]
  got := got.trans delivered.got

theorem addressed_of_table {registry : AudioSessionRegistry} (table : c.sends = false) :
    addressed i connection (registry, c) = none := by
  have nothing : c.message? connection.session connection.role = none := by
    cases c with
    | relayPartner | sendControl | publishAgent => cases table
    | connect | disconnect | receive => rfl
  unfold addressed
  rw [nothing, ite_self]

theorem got_of_not_receive (stays : ∀ reader, c ≠ .receive reader) (i : Nat) :
    (s.call c).got i = s.got i := by
  cases c with
  | receive reader => exact absurd rfl (stays reader)
  | _ => rfl

/-- A sending call. -/
theorem Inv.delivered_of_sends (inv : Inv s) (sends : c.sends = true)
    (here : s.connections[i]? = some connection) (found : s.registry.channels[i]? = some channel) :
    (s.call c).Delivered i connection { channel with
      sent := channel.sent ++ (addressed i connection (s.registry, c)).toList } := by
  have delivered := inv.delivered i connection channel here found
  refine ⟨delivered.capacity, delivered.opened, delivered.idle, ?_, ?_, ?_, ?_⟩
  · have waiting : channel.queue.length = channel.sent.length - channel.received :=
      List.length_drop ..
    have short := delivered.short
    change ((channel.sent ++ _).drop channel.received).length ≤ _
    rw [List.length_drop, List.length_append]
    cases new : addressed i connection (s.registry, c) with
    | none =>
      rw [Option.toList_none, List.length_nil]
      omega
    | some message =>
      have room : unread s.registry i < audioOutboundQueueCapacity := by
        unfold addressed at new
        split at new
        · rename_i both
          exact both.2
        · cases new
      rw [unread_eq found] at room
      rw [Option.toList_some, List.length_singleton]
      omega
  · exact delivered.read.trans (by simp)
  · change _ = (s.trace ++ [(s.registry, c)]).filterMap _
    rw [List.filterMap_append, ← delivered.sent]
    cases new : addressed i connection (s.registry, c) <;> simp [new]
  · rw [got_of_not_receive (fun reader same => by rw [same] at sends; cases sends), delivered.got,
      List.take_append_of_le_length delivered.read]

/-- What reading from a channel answers, and what it leaves. -/
theorem receive_of_some {registry : AudioSessionRegistry} {message : AudioOutbound}
    (found : registry.channels[i]? = some channel)
    (next : channel.sent[channel.received]? = some message) :
    registry.receive i =
      (some message, { registry with channels := registry.channels.set i channel.take }) := by
  unfold receive
  rw [found]
  dsimp only
  rw [Channel.recv_of_some next]

theorem receive_of_none {registry : AudioSessionRegistry}
    (found : registry.channels[i]? = some channel)
    (empty : channel.sent[channel.received]? = none) : registry.receive i = (none, registry) := by
  unfold receive
  rw [found]
  dsimp only
  obtain finished | pending := Channel.recv_of_none empty
  · rw [finished]
  · rw [pending]

/-- A read by another receiver. -/
theorem channels_receive_of_ne {registry : AudioSessionRegistry} {reader : Nat} (other : reader ≠ i) :
    (registry.receive reader).2.channels[i]? = registry.channels[i]? := by
  unfold receive
  split
  · rfl
  · split
    · exact List.getElem?_set_ne other
    · rfl

/-- A receiver's read. -/
theorem Inv.delivered_receive (inv : Inv s) (reader : Nat)
    (here : s.connections[i]? = some connection) (found : s.registry.channels[i]? = some channel) :
    ∃ after, (s.call (.receive reader)).registry.channels[i]? = some after ∧
      (s.call (.receive reader)).Delivered i connection after := by
  have delivered := inv.delivered i connection channel here found
  have nothing : addressed i connection (s.registry, .receive reader) = none :=
    addressed_of_table rfl
  have got : (s.call (.receive reader)).got i = if reader = i then
      s.got i ++ (s.registry.receive i).1.toList else s.got i := rfl
  by_cases mine : reader = i
  · subst mine
    rw [if_pos rfl] at got
    cases next : channel.sent[channel.received]? with
    | none =>
      have stays := receive_of_none found next
      rw [stays, Option.toList_none, List.append_nil] at got
      refine ⟨channel, ?_, delivered.of_same nothing got⟩
      change (s.registry.receive reader).2.channels[reader]? = _
      rw [stays, found]
    | some message =>
      have takes := receive_of_some found next
      rw [takes] at got
      refine ⟨channel.take, ?_, ?_⟩
      · change (s.registry.receive reader).2.channels[reader]? = _
        rw [takes]
        exact List.getElem?_set_self (List.getElem?_eq_some_iff.mp found).1
      · obtain ⟨more, same⟩ := List.getElem?_eq_some_iff.mp next
        refine ⟨delivered.capacity, delivered.opened, delivered.idle, ?_, more, ?_, ?_⟩
        · have short := delivered.short
          rw [Channel.queue, List.length_drop] at short
          change (channel.sent.drop (channel.received + 1)).length ≤ _
          rw [List.length_drop]
          omega
        · change _ = (s.trace ++ [_]).filterMap _
          rw [List.filterMap_append, ← delivered.sent]
          simp [nothing, Channel.take]
        · change _ = channel.sent.take (channel.received + 1)
          rw [got, delivered.got, List.take_add_one, next]
  · rw [if_neg mine] at got
    refine ⟨channel, ?_, delivered.of_same nothing got⟩
    exact (channels_receive_of_ne mine).trans found

/-- A connection that is being made: its channel is new, and nothing has been addressed to it. -/
theorem Inv.delivered_connect (inv : Inv s) {session role generation : String}
    (fresh : s.Fresh (.connect session role generation)) :
    (s.call (.connect session role generation)).Delivered s.registry.channels.length
      ⟨session, role, generation⟩ { capacity := audioOutboundQueueCapacity } := by
  refine ⟨rfl, rfl, rfl, Nat.zero_le _, le_rfl, ?_, ?_⟩
  · have never (entry) (mem : entry ∈ (s.call (.connect session role generation)).trace) :
        addressed s.registry.channels.length ⟨session, role, generation⟩ entry = none := by
      obtain mem | mem := List.mem_append.mp mem
      · unfold addressed
        rw [if_neg]
        rintro ⟨current, -⟩
        have earlier := inv.past entry mem session role generation current
        exact fresh ⟨session, role, generation⟩ rfl (List.mem_map.mpr
          ⟨_, List.mem_filterMap.mpr ⟨_, earlier, rfl⟩, rfl⟩)
      · cases List.mem_singleton.mp mem
        exact addressed_of_table rfl
    exact (List.filterMap_eq_nil_iff.mpr never).symm
  · exact inv.silent _ le_rfl

theorem length_dropSender (registry : AudioSessionRegistry) (peer : Option AudioPeer) :
    (registry.dropSender peer).length = registry.channels.length := by
  unfold dropSender
  cases peer with
  | none => rfl
  | some peer => exact List.length_modify ..

theorem length_sendAll (registry : AudioSessionRegistry) (messages : List (Nat × AudioOutbound)) :
    (registry.sendAll messages).channels.length = registry.channels.length := by
  induction messages generalizing registry with
  | nil => rfl
  | cons first messages ih => exact (ih _).trans (List.length_modify ..)

/-- Each connect opens one channel. -/
theorem length_call (registry : AudioSessionRegistry) (c : AudioCall) :
    (registry.call c).channels.length =
      registry.channels.length + c.connection?.toList.length := by
  cases c with
  | connect session role generation =>
    change (registry.dropSender _ ++ [_]).length = _
    rw [List.length_append, length_dropSender]
    rfl
  | disconnect session role generation =>
    change (registry.disconnect session role generation).channels.length = _
    unfold AudioSessionRegistry.disconnect
    split
    · rfl
    · split
      · exact length_dropSender ..
      · split <;> rfl
  | relayPartner | sendControl | publishAgent =>
    rw [call_of_sends _ rfl, length_sendAll]
    rfl
  | receive reader =>
    change (registry.receive reader).2.channels.length = _
    unfold receive
    split
    · rfl
    · split
      · exact List.length_set
      · rfl

theorem Inv.count_call (inv : Inv s) (c : AudioCall) :
    (s.call c).registry.channels.length = (s.call c).connections.length := by
  rw [connections_call, List.length_append, ← inv.count]
  exact length_call ..

theorem Inv.silent_call (inv : Inv s) (c : AudioCall) :
    ∀ i, (s.call c).registry.channels.length ≤ i → (s.call c).got i = [] := by
  intro i beyond'
  change (s.registry.call c).channels.length ≤ i at beyond'
  rw [length_call] at beyond'
  have beyond : s.registry.channels.length ≤ i := by omega
  have before := inv.silent i beyond
  cases c with
  | receive reader =>
    change (if reader = i then s.got i ++ (s.registry.receive i).1.toList else s.got i) = []
    have nothing : (s.registry.receive i).1 = none := by
      unfold receive
      rw [List.getElem?_eq_none_iff.mpr beyond]
    rw [nothing, before]
    exact ite_self _
  | _ => exact before

theorem Inv.delivered_call (inv : Inv s) (fresh : s.Fresh c)
    (here : (s.call c).connections[i]? = some connection)
    (found : (s.call c).registry.channels[i]? = some channel) :
    (s.call c).Delivered i connection channel := by
  change (s.registry.call c).channels[i]? = some channel at found
  rw [connections_call] at here
  obtain old | new := Nat.lt_or_ge i s.registry.channels.length
  · rw [List.getElem?_append_left (inv.count ▸ old)] at here
    have before := List.getElem?_eq_getElem old
    by_cases sends : c.sends = true
    · rw [inv.channels_of_sends sends here before] at found
      cases found
      exact inv.delivered_of_sends sends here before
    by_cases reads : ∃ reader, c = .receive reader
    · obtain ⟨reader, rfl⟩ := reads
      obtain ⟨after, there, delivered⟩ := inv.delivered_receive reader here before
      cases there.symm.trans found
      exact delivered
    · have stays : ∀ reader, c ≠ .receive reader := fun reader same => reads ⟨reader, same⟩
      have table := Bool.eq_false_iff.mpr sends
      obtain ⟨dropped, there⟩ := channels_of_table table stays before
      cases there.symm.trans found
      exact (inv.delivered i connection _ here before).of_same (addressed_of_table table)
        (got_of_not_receive stays i)
  · rw [List.getElem?_append_right (inv.count ▸ new)] at here
    cases c with
    | connect session role generation =>
      obtain ⟨bound, same⟩ := List.getElem?_eq_some_iff.mp here
      have last : i = s.registry.channels.length := by
        have one : i - s.connections.length < 1 := bound
        have := inv.count
        omega
      subst last
      simp only [AudioCall.connection?, Option.toList_some, List.getElem_singleton] at same
      subst same
      change (s.registry.dropSender _ ++ [_])[s.registry.channels.length]? = some channel at found
      rw [List.getElem?_append_right (length_dropSender ..).le, length_dropSender, Nat.sub_self]
        at found
      cases found
      exact inv.delivered_connect fresh
    | _ => cases here

theorem Inv.call (inv : Inv s) (fresh : s.Fresh c) : Inv (s.call c) where
  occupied := inv.occupied_call c
  placed := inv.placed_call c
  distinct := inv.distinct_call fresh
  count := inv.count_call c
  owns := inv.owns_call c
  past := inv.past_call c
  delivered _ _ _ here found := inv.delivered_call fresh here found
  silent := inv.silent_call c

theorem Inv.of_run (run : audioTraffic.Run Fresh {} s) : Inv s := by
  refine run.invariant ?_ ?_
  · refine ⟨nofun, nofun, List.nodup_nil, rfl, ?_, nofun, nofun, fun _ _ => rfl⟩
    intro session role generation
    refine ⟨nofun, ?_⟩
    rintro ⟨before, after, split, -⟩
    simp [calls] at split
  · intro t u c inv fresh step
    cases Option.some.inj step
    exact inv.call fresh

theorem partnerRole?_ne (role : String) : partnerRole? role ≠ some role := by
  unfold partnerRole?
  split <;> simp

/-- Nothing is addressed to another session, or back to the role that relays it. -/
theorem audience_of_addressed {entry : AudioSessionRegistry × AudioCall} {message : AudioOutbound}
    (added : addressed i connection entry = some message) :
    entry.2.audience? = some connection.session ∧
      ∀ bytes, entry.2 ≠ .relayPartner connection.session connection.role bytes := by
  obtain ⟨registry, c⟩ := entry
  have names : c.message? connection.session connection.role = some message := by
    unfold addressed at added
    split at added
    · exact added
    · cases added
  cases c with
  | relayPartner session senderRole bytes =>
    dsimp only [AudioCall.message?] at names
    split at names
    · rename_i partner
      refine ⟨congrArg some partner.1, fun bytes same => ?_⟩
      cases same
      exact partnerRole?_ne _ partner.2
    · cases names
  | sendControl session role text =>
    dsimp only [AudioCall.message?] at names
    split at names
    · rename_i here
      exact ⟨congrArg some here.1, nofun⟩
    · cases names
  | publishAgent session bytes =>
    dsimp only [AudioCall.message?] at names
    split at names
    · rename_i here
      exact ⟨congrArg some here, nofun⟩
    · cases names
  | connect | disconnect | receive => cases names

/-- What the receiver of a connection gets: what it has read, and what waits for it. -/
structure Gets (s : AudioTraffic) (i : Nat) (connection : AudioConnection) : Prop where
  messages : ∃ channel, s.registry.channels[i]? = some channel ∧
    s.got i ++ channel.queue = s.trace.filterMap (addressed i connection) ∧
    channel.queue.length ≤ audioOutboundQueueCapacity
  own : ∀ entry ∈ s.trace, addressed i connection entry ≠ none →
    entry.2.audience? = some connection.session ∧
      ∀ bytes, entry.2 ≠ .relayPartner connection.session connection.role bytes

/-- In every run with fresh generations: who is registered, and what each receiver gets. -/
theorem audio_registry_delivers (run : audioTraffic.Run Fresh {} s) :
    (∀ session role generation,
      s.registry.isCurrent session role generation = true ↔ Owns s.calls session role generation) ∧
    (∀ session role peer, s.registry.peer? session role = some peer →
      s.connections[peer.sender]? = some ⟨session, role, peer.generation⟩ ∧
      ∀ generation, Owns s.calls session role generation ↔ generation = peer.generation) ∧
    (∀ session role generation, s.registry.isCurrent session role generation = false →
      s.registry.disconnect session role generation = s.registry) ∧
    s.registry.Occupied ∧
    ∀ i connection, s.connections[i]? = some connection → s.Gets i connection := by
  have inv := Inv.of_run run
  refine ⟨inv.owns, fun session role peer found => ⟨inv.placed _ _ _ found, fun generation => ?_⟩,
    fun session role generation => inv.occupied.disconnect_stale _ _ _, inv.occupied, ?_⟩
  · rw [← inv.owns, isCurrent_iff, found]
    simp [eq_comm]
  · intro i connection here
    have open_ : i < s.registry.channels.length := by
      rw [inv.count]
      exact (List.getElem?_eq_some_iff.mp here).1
    have found := List.getElem?_eq_getElem open_
    have delivered := inv.delivered i connection _ here found
    refine ⟨⟨_, found, ?_, delivered.short⟩, fun entry _ added => ?_⟩
    · rw [delivered.got, Channel.queue, List.take_append_drop, delivered.sent]
    · obtain ⟨message, added⟩ := Option.ne_none_iff_exists'.mp added
      exact audience_of_addressed added

def pair : List AudioCall := [
  .connect "session" "A" "first", .connect "session" "B" "second",
  .relayPartner "session" "A" [1], .receive 1]

theorem audio_registry_delivers_pair : ∃ s, audioTraffic.Run Fresh {} s ∧
    s.got 1 = [.binary [1]] ∧ s.Gets 1 ⟨"session", "B", "second"⟩ := by
  have run : audioTraffic.Run Fresh {} (pair.foldl AudioTraffic.call {}) := by
    refine (((Machine.Run.refl.tail ?_ rfl).tail ?_ rfl).tail ?_ rfl).tail ?_ rfl
    all_goals rintro connection ⟨⟩
    all_goals decide +kernel
  refine ⟨_, run, ?_, (audio_registry_delivers run).2.2.2.2 1 _ ?_⟩
  · decide +kernel
  · rfl

end AudioTraffic

end Parlando
