import WitcherSeamless.Client.HandshakeGate
import WitcherSeamless.Client.InventoryBridge
import WitcherSeamless.Narrative.QuestSync

/-!
# The client's outbound calls

Five functions of the client write a record: `W3mInitiateHandshake`, `W3mBroadcastAchievement`,
`W3mBroadcastSessionState`, `broadcast_heartbeat` (every 5 s) and the inventory bridge's
`process_queue` (every 100 ms). Each writes `game::PROTOCOL` and the record into a buffer and
counts the packet in the telemetry (`dispatch`). In loopback mode (`W3mSetLoopback`) it then hands
the buffer to its channel's own `receive_*_safe` handler as if the master server had sent it;
otherwise it sends the buffer to the master server on the channel. `ClientState` puts these
together with the receive handlers of `WitcherSeamless.Client.HandshakeGate` and the inventory
bridge of `WitcherSeamless.Client.InventoryBridge`, and `ClientState.run` is the client over any
sequence of script calls, scheduler ticks and received messages. The bridge's mutex makes the push
of `queue_item` and the loop of `process_queue` atomic with respect to each other, and
`m_processed_items` is only touched by `queue_item`, so the calls can be taken one at a time.

Over every such run:

* a handshake round-trips: its buffer, received from the master server, completes the handshake
  exactly when the session id is non-zero, storing the id and the local name cut to 31 bytes
  (`handshake_round_trip`);
* the handshake flag is set only by a completing handshake, received or looped back
  (`handshake_flag_run`);
* an achievement is announced at most once (`achievement_announced_at_most_once`); in loopback
  mode the handler records it again under the id its record carries, a second key when the id is
  longer than 63 bytes or holds a `NUL` (`achievement_broadcast_records_carried_id`);
* every loot packet leaves the client exactly once, in queue order, and the packets are those the
  abstract bridge `Drop.forwarded` forwards (`loot_exactly_once_in_order`);
* the telemetry counts every buffer emitted since the last stats read that restarted it, and,
  when none did, every buffer of the run on top of its count before
  (`packetsSent_counts_emissions`).

## Main definitions

* `handshakeRecord`, `achievementRecord`, `sessionStateRecord`, `heartbeatRecord`.
* `ClientState` with `dispatch`, `w3mInitiateHandshake`, `w3mBroadcastAchievement`,
  `w3mBroadcastSessionState`, `broadcastHeartbeat`, `w3mInventoryBridgeQueue`, `processQueue`,
  and `ClientCall`, `step`, `run`.

Source: `src/unnamed/part_011`, `W3mInventoryBridge::process_queue`, `W3mInventoryBridge_Queue`,
`W3mBroadcastSessionState`, `W3mInitiateHandshake`, `W3mBroadcastAchievement`,
`set_loopback_mode`, `broadcast_heartbeat`, and the handler registration of `post_load`.
-/

namespace WitcherSeamless

/-- The name `network::on` registers a channel's handler under, and `network::send` sends on. -/
def GateChannel.name : GateChannel → String
  | .loot => "loot"
  | .questLock => "quest_lock"
  | .achievement => "achievement"
  | .heartbeat => "heartbeat"
  | .handshake => "handshake"

/-- The buffers emitted on `loot`, in order. -/
def lootPayloads (es : List Emission) : List (List UInt8) :=
  es.filterMap fun e => if e.message.channel = "loot" then some e.message.payload else none

@[simp] theorem lootPayloads_append (es es' : List Emission) :
    lootPayloads (es ++ es') = lootPayloads es ++ lootPayloads es' :=
  List.filterMap_append _ _ _

theorem lootPayloads_of (b : Bool) (c : GateChannel) (buffer : List UInt8) :
    lootPayloads [Emission.of b ⟨c.name, buffer⟩] = if c = .loot then [buffer] else [] := by
  cases c <;> simp [lootPayloads, GateChannel.name]

/-! ### The records -/

section Records

variable (env : ClientEnv)

/-- The record of `W3mInitiateHandshake(session_id)`; `localName` is
`get_player_name(utils::identity::get_guid())`. -/
def handshakeRecord (sessionId : UInt64) (localName : StdString) (now : UInt64) :
    W3mHandshakePacket :=
  ⟨sessionId, UInt32.ofNat env.localGuid.toNat, scriptVersion,
    strncpyTruncate (by decide) (CharArray.zero 32) localName, UInt32.ofNat now.toNat⟩

/-- The record of `W3mBroadcastAchievement(achievement_id)`. -/
def achievementRecord (achievementId : StdString) (now : UInt64) : W3mAchievementPacket :=
  ⟨copyString (by decide) (CharArray.zero _) achievementId, env.localGuid, UInt32.ofNat now.toNat⟩

/-- The record of `W3mBroadcastSessionState(new_state, scene_id)`: `1` is spectator. -/
def sessionStateRecord (newState sceneId : BitVec 32) (now : UInt64) : QuestLockPacket :=
  ⟨newState == 1, ⟨sceneId⟩, env.localGuid, UInt32.ofNat now.toNat⟩

/-- The record of `broadcast_heartbeat()`: the game-state fields are still zero. -/
def heartbeatRecord (now : UInt64) : W3mHeartbeatPacket :=
  ⟨env.localGuid, 0, 0, scriptVersion, 0, 0, now⟩

end Records

/-! ### A written buffer, received

The handlers read back what the writers wrote: a buffer of the client, received from the master
server, reaches its channel's action with the record the writer wrote. -/

namespace GateState

variable {Address : Type} [DecidableEq Address] (protocol : UInt32) (master : Address)

theorem take_tagged (record : List UInt8) : (tagged protocol record).take 4 = u32Bytes protocol :=
  List.take_left' (length_u32Bytes _)

theorem drop_tagged (record : List UInt8) : (tagged protocol record).drop 4 = record :=
  List.drop_left' (length_u32Bytes _)

/-- A tagged record from the master server is accepted exactly when the gate lets its channel
through, and the handler acts on the record. -/
theorem receive_tagged (g : GateState) (c : GateChannel) {record : List UInt8}
    (h : record.length = recordSize c) :
    g.receive protocol master ⟨c, master, tagged protocol record⟩ =
      if c = .handshake ∨ g.handshakeComplete = true then channelAct c record g.incrementReceived
      else g.incrementReceived := by
  rw [receive_eq, receiveSafe_eq]
  simp only [Accepted, drop_tagged, take_tagged, ← h, List.take_length, leValue_u32Bytes]
  simp [tagged, bne_eq_false_iff_eq]

/-- No handler forgets an achievement. -/
theorem unlockedAchievements_subset_receive (g : GateState) (m : InboundMessage Address) :
    g.unlockedAchievements ⊆ (g.receive protocol master m).unlockedAchievements := by
  rw [receive_eq, receiveSafe_eq]
  split
  · cases m.channel <;> simp only [channelAct, achievementAct, handshakeAct, heartbeatAct] <;>
      (try split_ifs) <;> simp [incrementReceived, setHandshakeComplete, Finset.subset_insert]
  · exact subset_rfl

/-- The handshake buffer, received: the handshake completes exactly when the session id is
non-zero, with the id and the local name as `strncpy_s` cut it. -/
theorem receive_handshakeRecord (env : ClientEnv) (g : GateState) (sessionId : UInt64)
    (localName : StdString) (now : UInt64) :
    g.receive env.protocol master
        ⟨.handshake, master,
          tagged env.protocol (handshakeRecord env sessionId localName now).bytes⟩ =
      if sessionId = 0 then g.incrementReceived
      else g.incrementReceived.setHandshakeComplete sessionId
        ((localName.takeWhile (· ≠ 0)).take 31) := by
  have hid (p : W3mHandshakePacket) : HandshakePacket.sessionId p.bytes = p.sessionId := by
    rw [HandshakePacket.sessionId, fieldAt_of_prefix [] (u64Bytes p.sessionId) List.length_nil
      (length_u64Bytes _) (by simp [W3mHandshakePacket.bytes]), leValue_u64Bytes,
      UInt64.ofNat_toNat]
  have hname (p : W3mHandshakePacket) :
      HandshakePacket.playerName p.bytes = extractString p.playerName := by
    rw [HandshakePacket.playerName, fieldAt_of_prefix
      (u64Bytes p.sessionId ++ u32Bytes p.playerGuid ++ u32Bytes p.protocolVersion)
      p.playerName.data (by simp) p.playerName.length_data (by simp [W3mHandshakePacket.bytes])]
    rfl
  rw [receive_tagged _ _ _ _ (by simp [recordSize])]
  simp only [true_or, if_true, channelAct, handshakeAct, hid, hname, handshakeRecord,
    extractString_strncpyTruncate]
  by_cases h : sessionId = 0 <;> simp [h]

/-- The achievement buffer, received: once the handshake is complete, the handler records the id
the record carries, cut to 63 bytes and to its first `NUL`. -/
theorem receive_achievementRecord (env : ClientEnv) (g : GateState) (achievementId : StdString)
    (now : UInt64) :
    g.receive env.protocol master
        ⟨.achievement, master,
          tagged env.protocol (achievementRecord env achievementId now).bytes⟩ =
      if g.handshakeComplete = true then
        { g.incrementReceived with
          unlockedAchievements := insert ((achievementId.take 63).takeWhile (· ≠ 0))
            g.unlockedAchievements }
      else g.incrementReceived := by
  have hid (p : W3mAchievementPacket) :
      AchievementPacket.achievementId p.bytes = extractString p.achievementId := by
    rw [AchievementPacket.achievementId, fieldAt_of_prefix [] p.achievementId.data
      List.length_nil (show p.achievementId.data.length = 64 from p.achievementId.length_data) (by simp [W3mAchievementPacket.bytes])]
    rfl
  rw [receive_tagged _ _ _ _ (by simp [recordSize])]
  simp only [reduceCtorEq, false_or, channelAct, achievementAct, hid, achievementRecord,
    extractString_copyString_eq]
  split_ifs with hc hm <;> try rfl
  change (achievementId.take 63).takeWhile (· ≠ 0) ∈ g.unlockedAchievements at hm
  rw [Finset.insert_eq_of_mem hm]
  rfl

end GateState

/-! ### The client -/

/-- `W3mNetworkStats`, what the live monitor reads. -/
structure W3mNetworkStats where
  sessionState : String
  rttMs : ℤ
  packetsPerSecond : ℤ
  xorActive : Bool
  handshakeComplete : Bool
  connectedPlayers : Nat

/-- The client globals the outbound calls and the receive handlers touch, and what was emitted so
far, oldest first. -/
structure ClientState where
  gate : GateState
  bridge : W3mInventoryBridge
  loopbackEnabled : Bool
  packetsSent : UInt32
  lastResetTime : ℤ
  emitted : List Emission

/-- A script call, a scheduler tick or a received message, each with the clock reading it makes. -/
inductive ClientCall (Address : Type)
  /-- `W3mSetLoopback(enabled)`. -/
  | setLoopback (enabled : Bool)
  /-- `W3mInitiateHandshake(session_id)`, the local player's name being `localName`. -/
  | initiateHandshake (sessionId : UInt64) (localName : StdString) (now : UInt64)
  /-- `W3mBroadcastAchievement(achievement_id)`. -/
  | broadcastAchievement (achievementId : StdString) (now : UInt64)
  /-- `W3mBroadcastSessionState(new_state, scene_id)`. -/
  | broadcastSessionState (newState sceneId : BitVec 32) (now : UInt64)
  /-- `W3mInventoryBridge(item_name, quantity, is_relic_or_boss)`. -/
  | inventoryQueue (itemName : StdString) (quantity : BitVec 32) (isRelicOrBoss : Bool)
      (now : UInt64)
  /-- The 100 ms tick: `g_inventory_bridge.process_queue()`. -/
  | processQueue
  /-- The 5 s tick: `broadcast_heartbeat()`. -/
  | heartbeat (now : UInt64)
  /-- A message handed to the handler registered for its channel. -/
  | receive (m : InboundMessage Address)
  /-- `W3mGetNetworkStats()`, the steady clock reading `now` nanoseconds. -/
  | networkStats (now : ℤ)

/-- Whether the call, made in state `s`, restarts the telemetry counters: a stats read a second
or more after they last restarted. -/
def ClientCall.restarts {Address : Type} (s : ClientState) : ClientCall Address → Bool
  | .networkStats now => decide (1000 ≤ (now - s.lastResetTime).tdiv 1000000)
  | _ => false

/-- A call that completes the handshake, made in the given loopback mode: a looped-back handshake
with a non-zero session id, or a completing handshake received. -/
def ClientCall.CompletesHandshake {Address : Type} [DecidableEq Address] (protocol : UInt32)
    (master : Address) (loopbackEnabled : Bool) : ClientCall Address → Prop
  | .initiateHandshake sessionId _ _ => loopbackEnabled = true ∧ sessionId ≠ 0
  | .receive m => GateState.CompletesHandshake protocol master m
  | _ => False

/-- The drop a call hands to the inventory bridge, the quantity cast to `uint32_t`. -/
def ClientCall.drop? {Address : Type} : ClientCall Address → Option Drop
  | .inventoryQueue n q r now => some ⟨n, ⟨q⟩, r, now⟩
  | _ => none

namespace ClientState

/-- The client at load time, the steady clock reading `0`. -/
def init : ClientState := ⟨.init, .empty, false, 0, 0, []⟩

section Calls

variable {Address : Type} [DecidableEq Address] (env : ClientEnv) (master : Address)

/-- The tail every writer shares: write `game::PROTOCOL` and the record, `increment_sent()`, then
hand the buffer to the channel's handler from the master server in loopback mode, or send it. -/
def dispatch (c : GateChannel) (record : List UInt8) (s : ClientState) : ClientState :=
  let buffer := tagged env.protocol record
  if s.loopbackEnabled then
    { s with
      packetsSent := s.packetsSent + 1
      gate := s.gate.receive env.protocol master ⟨c, master, buffer⟩
      emitted := s.emitted ++ [.loopback ⟨c.name, buffer⟩] }
  else { s with packetsSent := s.packetsSent + 1, emitted := s.emitted ++ [.sent ⟨c.name, buffer⟩] }

/-- `set_loopback_mode(enabled)`. -/
def setLoopbackMode (s : ClientState) (enabled : Bool) : ClientState :=
  { s with loopbackEnabled := enabled }

/-- `W3mInitiateHandshake(session_id)`. -/
def w3mInitiateHandshake (s : ClientState) (sessionId : UInt64) (localName : StdString)
    (now : UInt64) : ClientState :=
  s.dispatch env master .handshake (handshakeRecord env sessionId localName now).bytes

/-- `W3mBroadcastAchievement(achievement_id)`: announced once per id, the id recorded first. -/
def w3mBroadcastAchievement (s : ClientState) (achievementId : StdString) (now : UInt64) :
    ClientState :=
  if achievementId ∈ s.gate.unlockedAchievements then s
  else
    dispatch env master .achievement (achievementRecord env achievementId now).bytes
      { s with gate := { s.gate with
          unlockedAchievements := insert achievementId s.gate.unlockedAchievements } }

/-- `W3mBroadcastSessionState(new_state, scene_id)`. -/
def w3mBroadcastSessionState (s : ClientState) (newState sceneId : BitVec 32) (now : UInt64) :
    ClientState :=
  s.dispatch env master .questLock (sessionStateRecord env newState sceneId now).bytes

/-- `broadcast_heartbeat()`. -/
def broadcastHeartbeat (s : ClientState) (now : UInt64) : ClientState :=
  s.dispatch env master .heartbeat (heartbeatRecord env now).bytes

/-- `W3mInventoryBridge_Queue(item_name, quantity, is_relic_or_boss)`. -/
def w3mInventoryBridgeQueue (s : ClientState) (itemName : StdString) (quantity : BitVec 32)
    (isRelicOrBoss : Bool) (now : UInt64) : ClientState :=
  { s with bridge := s.bridge.queueItem env.localGuid itemName ⟨quantity⟩ isRelicOrBoss now }

/-- The loop of `process_queue`, the list being the queue: pop the front packet, then write and
dispatch it on `loot`. -/
def drainQueue : List W3mLootPacket → ClientState → ClientState
  | [], s => s
  | p :: ps, s =>
    drainQueue ps (dispatch env master .loot p.bytes { s with bridge := { s.bridge with
      outgoingQueue := ps } })

/-- `W3mInventoryBridge::process_queue()`. -/
def processQueue (s : ClientState) : ClientState := drainQueue env master s.bridge.outgoingQueue s

/-- A received message, dispatched to its channel's handler. -/
def receive (s : ClientState) (m : InboundMessage Address) : ClientState :=
  { s with gate := s.gate.receive env.protocol master m }

/-- `g_telemetry.get_packets_per_second()` at `now`: the packets sent and received since the
last reset; once a second or more has passed since it, the counters restart at `now`. -/
def getPacketsPerSecond (s : ClientState) (now : ℤ) : ClientState × UInt32 :=
  let total := s.packetsSent + s.gate.packetsReceived
  if 1000 ≤ (now - s.lastResetTime).tdiv 1000000 then
    ({ s with
      packetsSent := 0
      gate := { s.gate with packetsReceived := 0 }
      lastResetTime := now }, total)
  else (s, total)

/-- `W3mGetNetworkStats()` at `now`. `g_players` is never filled in the sources and `update_rtt`
never called: the session reads "Offline", no player is connected, and the round-trip time is
`0` in both modes. -/
def w3mGetNetworkStats (s : ClientState) (now : ℤ) : ClientState × W3mNetworkStats :=
  let playerCount : Nat := 0
  let r := s.getPacketsPerSecond now
  (r.1, ⟨if 0 < playerCount then "FreeRoam" else "Offline", if s.loopbackEnabled then 0 else 0,
    r.2.toBitVec.toInt, true, r.1.gate.handshakeComplete, playerCount⟩)

/-- One call. -/
def step (s : ClientState) : ClientCall Address → ClientState
  | .setLoopback b => s.setLoopbackMode b
  | .initiateHandshake sessionId localName now =>
    s.w3mInitiateHandshake env master sessionId localName now
  | .broadcastAchievement id now => s.w3mBroadcastAchievement env master id now
  | .broadcastSessionState newState sceneId now =>
    s.w3mBroadcastSessionState env master newState sceneId now
  | .inventoryQueue n q r now => s.w3mInventoryBridgeQueue env n q r now
  | .processQueue => s.processQueue env master
  | .heartbeat now => s.broadcastHeartbeat env master now
  | .receive m => s.receive env master m
  | .networkStats now => (s.w3mGetNetworkStats now).1

/-- A sequence of calls, one at a time. -/
def run (s : ClientState) (calls : List (ClientCall Address)) : ClientState :=
  calls.foldl (step env master) s

@[simp] theorem run_nil (s : ClientState) : s.run env master [] = s := rfl

@[simp] theorem run_cons (s : ClientState) (c : ClientCall Address)
    (cs : List (ClientCall Address)) :
    s.run env master (c :: cs) = (s.step env master c).run env master cs := rfl

theorem run_append (s : ClientState) (cs cs' : List (ClientCall Address)) :
    s.run env master (cs ++ cs') = (s.run env master cs).run env master cs' :=
  List.foldl_append _ _ _ _

/-! ### What a stats read does -/

section Stats

variable (s : ClientState) (now : ℤ)

/-- A stats read touches only the telemetry. -/
theorem getPacketsPerSecond_frame :
    (s.getPacketsPerSecond now).1 = { s with
      packetsSent := (s.getPacketsPerSecond now).1.packetsSent
      gate := { s.gate with packetsReceived := (s.getPacketsPerSecond now).1.gate.packetsReceived }
      lastResetTime := (s.getPacketsPerSecond now).1.lastResetTime } := by
  unfold getPacketsPerSecond
  split_ifs <;> rfl

@[simp] theorem bridge_w3mGetNetworkStats : (s.w3mGetNetworkStats now).1.bridge = s.bridge := by
  rw [w3mGetNetworkStats, getPacketsPerSecond_frame]

@[simp] theorem loopbackEnabled_w3mGetNetworkStats :
    (s.w3mGetNetworkStats now).1.loopbackEnabled = s.loopbackEnabled := by
  rw [w3mGetNetworkStats, getPacketsPerSecond_frame]

@[simp] theorem emitted_w3mGetNetworkStats : (s.w3mGetNetworkStats now).1.emitted = s.emitted := by
  rw [w3mGetNetworkStats, getPacketsPerSecond_frame]

@[simp] theorem handshakeComplete_w3mGetNetworkStats :
    (s.w3mGetNetworkStats now).1.gate.handshakeComplete = s.gate.handshakeComplete := by
  rw [w3mGetNetworkStats, getPacketsPerSecond_frame]

@[simp] theorem unlockedAchievements_w3mGetNetworkStats :
    (s.w3mGetNetworkStats now).1.gate.unlockedAchievements = s.gate.unlockedAchievements := by
  rw [w3mGetNetworkStats, getPacketsPerSecond_frame]

end Stats

/-! ### What a dispatch does -/

section Dispatch

variable (c : GateChannel) (record : List UInt8) (s : ClientState)

@[simp] theorem bridge_dispatch : (s.dispatch env master c record).bridge = s.bridge := by
  unfold dispatch; split <;> rfl

@[simp] theorem loopbackEnabled_dispatch :
    (s.dispatch env master c record).loopbackEnabled = s.loopbackEnabled := by
  unfold dispatch; split <;> rfl

@[simp] theorem packetsSent_dispatch :
    (s.dispatch env master c record).packetsSent = s.packetsSent + 1 := by
  unfold dispatch; split <;> rfl

@[simp] theorem emitted_dispatch : (s.dispatch env master c record).emitted =
    s.emitted ++ [Emission.of s.loopbackEnabled ⟨c.name, tagged env.protocol record⟩] := by
  unfold dispatch Emission.of; split <;> simp_all

theorem gate_dispatch : (s.dispatch env master c record).gate =
    if s.loopbackEnabled then
      s.gate.receive env.protocol master ⟨c, master, tagged env.protocol record⟩
    else s.gate := by
  unfold dispatch; split <;> rfl

end Dispatch

section Drain

variable (ps : List W3mLootPacket) (s : ClientState)

@[simp] theorem loopbackEnabled_drainQueue :
    (drainQueue env master ps s).loopbackEnabled = s.loopbackEnabled := by
  induction ps generalizing s with
  | nil => rfl
  | cons p ps ih => simp [drainQueue, ih]

theorem emitted_drainQueue : (drainQueue env master ps s).emitted = s.emitted ++
    ps.map fun p => Emission.of s.loopbackEnabled ⟨"loot", tagged env.protocol p.bytes⟩ := by
  induction ps generalizing s with
  | nil => simp [drainQueue]
  | cons p ps ih => simp [drainQueue, ih, GateChannel.name]

theorem processedItems_drainQueue :
    (drainQueue env master ps s).bridge.processedItems = s.bridge.processedItems := by
  induction ps generalizing s with
  | nil => rfl
  | cons p ps ih => simp [drainQueue, ih]

theorem outgoingQueue_drainQueue (h : s.bridge.outgoingQueue = ps) :
    (drainQueue env master ps s).bridge.outgoingQueue = [] := by
  induction ps generalizing s with
  | nil => exact h
  | cons p ps ih => exact ih _ (by simp)

end Drain

/-! ### The handshake -/

/-- A handshake round-trips. The call emits one buffer on `handshake`, sent or looped back; that
buffer, received from the master server by any client, completes the handshake exactly when the
session id is non-zero, storing the id and the local name cut to 31 bytes; in loopback mode the
client's own gate is that receipt, and in send mode it is left alone. -/
theorem handshake_round_trip (s : ClientState) (sessionId : UInt64) (localName : StdString)
    (now : UInt64) :
    let s' : ClientState := s.w3mInitiateHandshake env master sessionId localName now
    let buffer : List UInt8 :=
      tagged env.protocol (handshakeRecord env sessionId localName now).bytes
    s'.emitted = s.emitted ++ [Emission.of s.loopbackEnabled ⟨"handshake", buffer⟩] ∧
    (∀ g : GateState, g.receive env.protocol master ⟨.handshake, master, buffer⟩ =
      if sessionId = 0 then g.incrementReceived
      else g.incrementReceived.setHandshakeComplete sessionId
        ((localName.takeWhile (· ≠ 0)).take 31)) ∧
    s'.gate = if s.loopbackEnabled then
      s.gate.receive env.protocol master ⟨.handshake, master, buffer⟩ else s.gate :=
  ⟨emitted_dispatch .., fun g => GateState.receive_handshakeRecord master env g ..,
    gate_dispatch ..⟩

theorem handshakeComplete_dispatch {c : GateChannel} (hc : c ≠ .handshake) (record : List UInt8)
    (s : ClientState) :
    (s.dispatch env master c record).gate.handshakeComplete = s.gate.handshakeComplete := by
  rw [gate_dispatch]
  split
  · exact Bool.eq_iff_iff.2 ((GateState.handshakeComplete_receive ..).trans
      (or_iff_left fun h => hc h.1))
  · rfl

theorem handshakeComplete_drainQueue (ps : List W3mLootPacket) (s : ClientState) :
    (drainQueue env master ps s).gate.handshakeComplete = s.gate.handshakeComplete := by
  induction ps generalizing s with
  | nil => rfl
  | cons p ps ih => rw [drainQueue, ih, handshakeComplete_dispatch _ _ (by decide)]

/-- One call sets the handshake flag exactly when the flag was set or the call completes the
handshake. -/
theorem handshakeComplete_step (s : ClientState) (c : ClientCall Address) :
    (s.step env master c).gate.handshakeComplete = true ↔
      s.gate.handshakeComplete = true ∨
        c.CompletesHandshake env.protocol master s.loopbackEnabled := by
  cases c with
  | initiateHandshake sessionId localName now =>
    simp only [step, w3mInitiateHandshake, gate_dispatch, GateState.receive_handshakeRecord,
      ClientCall.CompletesHandshake]
    cases s.loopbackEnabled <;> by_cases h : sessionId = 0 <;>
      simp [h, GateState.setHandshakeComplete, GateState.incrementReceived]
  | broadcastAchievement id now =>
    simp only [step, w3mBroadcastAchievement, ClientCall.CompletesHandshake, or_false]
    split
    · rfl
    · rw [handshakeComplete_dispatch _ _ (by decide)]
  | receive m => exact GateState.handshakeComplete_receive ..
  | processQueue =>
    simp [step, processQueue, handshakeComplete_drainQueue, ClientCall.CompletesHandshake]
  | _ =>
    simp [step, setLoopbackMode, w3mBroadcastSessionState, broadcastHeartbeat,
      w3mInventoryBridgeQueue, handshakeComplete_dispatch, ClientCall.CompletesHandshake]

omit [DecidableEq Address] in
theorem exists_split_cons {α : Type} (a : α) (l : List α) (P : List α → α → Prop) :
    (∃ pre x post, a :: l = pre ++ x :: post ∧ P pre x) ↔
      P [] a ∨ ∃ pre x post, l = pre ++ x :: post ∧ P (a :: pre) x := by
  constructor
  · rintro ⟨pre, x, post, h, hp⟩
    rcases List.cons_eq_append_iff.1 h with ⟨rfl, h'⟩ | ⟨pre', rfl, h'⟩
    · obtain ⟨rfl, rfl⟩ := List.cons.inj h'
      exact Or.inl hp
    · exact Or.inr ⟨pre', x, post, h', hp⟩
  · rintro (hp | ⟨pre, x, post, rfl, hp⟩)
    · exact ⟨[], a, l, rfl, hp⟩
    · exact ⟨a :: pre, x, post, rfl, hp⟩

/-- The handshake flag over any run: set exactly when it was set at the start, or one of the calls
completed the handshake, a looped-back handshake counting in the loopback mode of its time. -/
theorem handshake_flag_run (s : ClientState) (calls : List (ClientCall Address)) :
    (s.run env master calls).gate.handshakeComplete = true ↔ s.gate.handshakeComplete = true ∨
      ∃ pre c post, calls = pre ++ c :: post ∧
        c.CompletesHandshake env.protocol master (s.run env master pre).loopbackEnabled := by
  induction calls generalizing s with
  | nil => simp
  | cons c cs ih =>
    rw [run_cons, ih, handshakeComplete_step, exists_split_cons c cs fun pre x =>
      x.CompletesHandshake env.protocol master (s.run env master pre).loopbackEnabled, or_assoc]
    rfl

/-! ### Achievements -/

theorem unlockedAchievements_subset_dispatch (c : GateChannel) (record : List UInt8)
    (s : ClientState) :
    s.gate.unlockedAchievements ⊆ (s.dispatch env master c record).gate.unlockedAchievements := by
  rw [gate_dispatch]
  split
  · exact GateState.unlockedAchievements_subset_receive ..
  · exact subset_rfl

theorem unlockedAchievements_subset_drainQueue (ps : List W3mLootPacket) (s : ClientState) :
    s.gate.unlockedAchievements ⊆ (drainQueue env master ps s).gate.unlockedAchievements := by
  induction ps generalizing s with
  | nil => exact subset_rfl
  | cons p ps ih =>
    exact fun x hx => ih _ (unlockedAchievements_subset_dispatch _ _ _ _ _ hx)

/-- No call forgets an achievement. -/
theorem unlockedAchievements_subset_step (s : ClientState) (c : ClientCall Address) :
    s.gate.unlockedAchievements ⊆ (s.step env master c).gate.unlockedAchievements := by
  cases c with
  | broadcastAchievement id now =>
    simp only [step, w3mBroadcastAchievement]
    split
    · exact subset_rfl
    · exact fun x hx =>
        unlockedAchievements_subset_dispatch _ _ _ _ _ (Finset.mem_insert_of_mem hx)
  | receive m => exact GateState.unlockedAchievements_subset_receive ..
  | processQueue => exact unlockedAchievements_subset_drainQueue ..
  | setLoopback | inventoryQueue => exact subset_rfl
  | networkStats now => simp [step]
  | _ => exact unlockedAchievements_subset_dispatch ..

theorem unlockedAchievements_subset_run (s : ClientState) (calls : List (ClientCall Address)) :
    s.gate.unlockedAchievements ⊆ (s.run env master calls).gate.unlockedAchievements := by
  induction calls generalizing s with
  | nil => exact subset_rfl
  | cons c cs ih => exact (unlockedAchievements_subset_step _ _ s c).trans (ih _)

theorem mem_unlockedAchievements_broadcast (s : ClientState) (id : StdString) (now : UInt64) :
    id ∈ (s.w3mBroadcastAchievement env master id now).gate.unlockedAchievements := by
  unfold w3mBroadcastAchievement
  split
  · assumption
  · exact unlockedAchievements_subset_dispatch _ _ _ _ _ (Finset.mem_insert_self _ _)

/-- An achievement is announced at most once: once a broadcast of it has run, whatever calls and
messages follow, another broadcast of it emits nothing and changes nothing. -/
theorem achievement_announced_at_most_once (s : ClientState) (pre post : List (ClientCall Address))
    (id : StdString) (now now' : UInt64) :
    let r : ClientState := s.run env master (pre ++ .broadcastAchievement id now :: post)
    r.step env master (.broadcastAchievement id now') = r := by
  intro r
  have hmem : id ∈ r.gate.unlockedAchievements := by
    simp only [r, run_append, run_cons]
    exact unlockedAchievements_subset_run _ _ _ _ (mem_unlockedAchievements_broadcast ..)
  simp only [step, w3mBroadcastAchievement, if_pos hmem]

/-- What `W3mBroadcastAchievement` does with the set of unlocked achievements and what it emits.
A known id changes nothing. A new one is recorded and announced on `achievement`; in loopback
mode with the handshake complete the handler then records the id its record carries as well, the
id cut to 63 bytes and to its first `NUL`, which is a second key when the id is longer or holds a
`NUL`. -/
theorem achievement_broadcast_records_carried_id (s : ClientState) (id : StdString)
    (now : UInt64) :
    let s' : ClientState := s.w3mBroadcastAchievement env master id now
    s'.emitted = s.emitted ++ (if id ∈ s.gate.unlockedAchievements then [] else
      [Emission.of s.loopbackEnabled
        ⟨"achievement", tagged env.protocol (achievementRecord env id now).bytes⟩]) ∧
    s'.gate.unlockedAchievements =
      if id ∈ s.gate.unlockedAchievements then s.gate.unlockedAchievements
      else if s.loopbackEnabled = true ∧ s.gate.handshakeComplete = true then
        insert ((id.take 63).takeWhile (· ≠ 0)) (insert id s.gate.unlockedAchievements)
      else insert id s.gate.unlockedAchievements := by
  by_cases hm : id ∈ s.gate.unlockedAchievements
  · simp [w3mBroadcastAchievement, hm]
  · simp only [w3mBroadcastAchievement, if_neg hm, emitted_dispatch, gate_dispatch,
      GateState.receive_achievementRecord]
    refine ⟨by simp [GateChannel.name], ?_⟩
    cases s.loopbackEnabled <;> cases s.gate.handshakeComplete <;> rfl

/-! ### The loot queue -/

omit [DecidableEq Address] in
theorem lootPayloads_drain (b : Bool) (ps : List W3mLootPacket) :
    lootPayloads (ps.map fun p => Emission.of b ⟨"loot", tagged env.protocol p.bytes⟩) =
      ps.map fun p => tagged env.protocol p.bytes := by
  induction ps with
  | nil => rfl
  | cons p ps ih =>
    rw [List.map_cons, ← List.singleton_append, lootPayloads_append, ih]
    simp [lootPayloads]

/-- A call that hands no drop to the bridge emits nothing on `loot` and leaves the bridge alone,
except the tick, which moves the queue to the emissions. -/
theorem loot_step_of_quiet {s : ClientState} {c : ClientCall Address} (hd : c.drop? = none)
    (hc : c ≠ .processQueue) :
    lootPayloads (s.step env master c).emitted = lootPayloads s.emitted ∧
      (s.step env master c).bridge = s.bridge := by
  cases c with
  | broadcastAchievement id now =>
    simp only [step, w3mBroadcastAchievement]
    split
    · exact ⟨rfl, rfl⟩
    · simp [lootPayloads_of]
  | inventoryQueue => cases hd
  | processQueue => cases hc rfl
  | _ =>
    simp [step, setLoopbackMode, w3mInitiateHandshake, w3mBroadcastSessionState,
      broadcastHeartbeat, receive, lootPayloads_of]

/-- One call against the abstract bridge: the loot buffers emitted and still queued grow by the
packets the abstract bridge forwards for the call's drop, and the key set then stands for the
pairs seen after it. -/
theorem loot_step {seen : List (StdString × UInt32)} {s : ClientState}
    (h : s.bridge.Represents seen) (c : ClientCall Address) :
    lootPayloads (s.step env master c).emitted ++
        (s.step env master c).bridge.outgoingQueue.map (fun p => tagged env.protocol p.bytes) =
      lootPayloads s.emitted ++ (s.bridge.outgoingQueue ++
        Drop.forwarded env.localGuid seen c.drop?.toList).map
          (fun p => tagged env.protocol p.bytes) ∧
    (s.step env master c).bridge.Represents (c.drop?.toList.foldl Drop.see seen) := by
  by_cases hc : c = .processQueue
  · subst hc
    refine ⟨?_, ?_⟩
    · simp [step, processQueue, emitted_drainQueue, outgoingQueue_drainQueue, lootPayloads_drain,
        ClientCall.drop?, Drop.forwarded]
    · simpa only [step, processQueue, W3mInventoryBridge.Represents, processedItems_drainQueue]
  cases hd : c.drop? with
  | none =>
    obtain ⟨he, hb⟩ := loot_step_of_quiet env master hd hc
    rw [he, hb]
    exact ⟨by simp [Drop.forwarded], h⟩
  | some d =>
    cases c with
    | inventoryQueue n q r now =>
      cases hd
      obtain ⟨hq, hr⟩ :=
        W3mInventoryBridge.queueItem_represents h env.localGuid ⟨n, ⟨q⟩, r, now⟩
      refine ⟨?_, hr⟩
      simp only [step, w3mInventoryBridgeQueue, Option.toList_some, Drop.forwarded, List.append_nil]
      rw [hq]
    | _ => cases hd

/-- The run lemma of `loot_step`: over any run, the loot buffers emitted and still queued grow by
`Drop.forwarded` of the run's drops. -/
theorem lootPayloads_run (s : ClientState) {seen : List (StdString × UInt32)}
    (h : s.bridge.Represents seen) (calls : List (ClientCall Address)) :
    lootPayloads (s.run env master calls).emitted ++
        (s.run env master calls).bridge.outgoingQueue.map (fun p => tagged env.protocol p.bytes) =
      lootPayloads s.emitted ++ (s.bridge.outgoingQueue ++
        Drop.forwarded env.localGuid seen (calls.filterMap ClientCall.drop?)).map
          (fun p => tagged env.protocol p.bytes) := by
  induction calls generalizing s seen with
  | nil => simp [Drop.forwarded]
  | cons c cs ih =>
    obtain ⟨h₁, h₂⟩ := loot_step env master h c
    have hf : (c :: cs).filterMap ClientCall.drop? =
        c.drop?.toList ++ cs.filterMap ClientCall.drop? := by
      cases hd : c.drop? <;> simp [List.filterMap_cons, hd]
    simp only [run_cons]
    rw [ih _ h₂, List.map_append, ← List.append_assoc, h₁, hf, Drop.forwarded_append]
    simp only [List.map_append, List.append_assoc]

/-- Every loot packet leaves the client exactly once and in queue order, sent or looped back, and
the packets are those the abstract bridge forwards. Over any run from a bridge whose key set
stands for the pairs `seen`, the loot buffers emitted and those still queued are the ones emitted
and queued before, followed by `Drop.forwarded` of the run's drops: a deduplicated drop (a relic or
boss drop that is not crowns) is forwarded unless a forwarded one had its name and quantity, and
every other drop is forwarded. -/
theorem loot_exactly_once_in_order (s : ClientState) {seen : List (StdString × UInt32)}
    (h : s.bridge.Represents seen) (calls : List (ClientCall Address)) :
    let r : ClientState := s.run env master calls
    lootPayloads r.emitted ++ r.bridge.outgoingQueue.map (fun p => tagged env.protocol p.bytes) =
      lootPayloads s.emitted ++ (s.bridge.outgoingQueue ++
        Drop.forwarded env.localGuid seen (calls.filterMap ClientCall.drop?)).map
          (fun p => tagged env.protocol p.bytes) :=
  lootPayloads_run env master s h calls

/-- A relic dropped twice and crowns dropped twice, then the tick. -/
def relicAndCrowns : List (ClientCall Unit) :=
  [.inventoryQueue (asciiBytes "Relic") 1 true 0, .inventoryQueue (asciiBytes "Relic") 1 true 1,
    .inventoryQueue (asciiBytes "Crowns") 5 true 2, .inventoryQueue (asciiBytes "Crowns") 5 true 3,
    .processQueue]

/-- From load time: the relic is forwarded once, the crowns twice. -/
theorem loot_forwarded_for_relic_and_crowns :
    init.bridge.Represents [] ∧
    (let r : ClientState := init.run constHashEnv () relicAndCrowns
    lootPayloads r.emitted ++
        r.bridge.outgoingQueue.map (fun p => tagged constHashEnv.protocol p.bytes) =
      lootPayloads init.emitted ++ (init.bridge.outgoingQueue ++
        Drop.forwarded constHashEnv.localGuid [] (relicAndCrowns.filterMap ClientCall.drop?)).map
          (fun p => tagged constHashEnv.protocol p.bytes)) :=
  ⟨rfl, loot_exactly_once_in_order constHashEnv () init (show init.bridge.Represents [] from rfl)
    relicAndCrowns⟩

example : (Drop.forwarded 1 [] (relicAndCrowns.filterMap ClientCall.drop?)).length = 3 := by
  decide

/-! ### The telemetry -/

theorem toNat_add_one_uint32 (a : UInt32) : (a + 1).toNat = (a.toNat + 1) % 2 ^ 32 :=
  BitVec.toNat_add _ _

theorem toNat_mod_uint32 (a : UInt32) : a.toNat % 2 ^ 32 = a.toNat :=
  Nat.mod_eq_of_lt a.toBitVec.isLt

theorem packetsSent_drainQueue (ps : List W3mLootPacket) (s : ClientState) :
    (drainQueue env master ps s).packetsSent.toNat =
      (s.packetsSent.toNat + ps.length) % 2 ^ 32 := by
  induction ps generalizing s with
  | nil => rw [drainQueue, List.length_nil, Nat.add_zero, toNat_mod_uint32]
  | cons p ps ih =>
    simp only [drainQueue, ih, packetsSent_dispatch, toNat_add_one_uint32, List.length_cons]
    omega

/-- A stats read a second or more after the last restart restarts the sent counter; any other
leaves it. -/
theorem packetsSent_w3mGetNetworkStats (s : ClientState) (now : ℤ) :
    (s.w3mGetNetworkStats now).1.packetsSent =
      if 1000 ≤ (now - s.lastResetTime).tdiv 1000000 then 0 else s.packetsSent := by
  simp only [w3mGetNetworkStats, getPacketsPerSecond]
  split_ifs <;> rfl

/-- One call appends its emissions; it restarts the sent count, or counts each emission once. -/
theorem packetsSent_step (s : ClientState) (c : ClientCall Address) :
    ∃ new : List Emission, (s.step env master c).emitted = s.emitted ++ new ∧
      (s.step env master c).packetsSent.toNat =
        if c.restarts s then 0 else (s.packetsSent.toNat + new.length) % 2 ^ 32 := by
  have hs : s.packetsSent.toNat = (s.packetsSent.toNat + 0) % 2 ^ 32 :=
    (toNat_mod_uint32 _).symm
  cases c with
  | broadcastAchievement id now =>
    simp only [step, w3mBroadcastAchievement, ClientCall.restarts]
    split
    · exact ⟨[], by simp, hs⟩
    · exact ⟨_, emitted_dispatch .., by simp [toNat_add_one_uint32]⟩
  | processQueue =>
    exact ⟨_, emitted_drainQueue .., by simp [step, processQueue, packetsSent_drainQueue,
      ClientCall.restarts]⟩
  | setLoopback | inventoryQueue | receive =>
    exact ⟨[], by simp [step, setLoopbackMode, w3mInventoryBridgeQueue, receive], hs⟩
  | networkStats now =>
    refine ⟨[], by simp [step], ?_⟩
    simp only [step, packetsSent_w3mGetNetworkStats, ClientCall.restarts, decide_eq_true_eq,
      List.length_nil]
    split_ifs
    · rfl
    · exact hs
  | _ => exact ⟨_, emitted_dispatch .., by simp [step, w3mInitiateHandshake,
      w3mBroadcastSessionState, broadcastHeartbeat, toNat_add_one_uint32, ClientCall.restarts]⟩

/-- Whether a call of the run restarts the telemetry counters, each call made in the state the
calls before it leave. -/
def restartsDuring (s : ClientState) : List (ClientCall Address) → Bool
  | [] => false
  | c :: cs => c.restarts s || (s.step env master c).restartsDuring cs

theorem restartsDuring_append (s : ClientState) (cs cs' : List (ClientCall Address)) :
    s.restartsDuring env master (cs ++ cs') =
      (s.restartsDuring env master cs || (s.run env master cs).restartsDuring env master cs') := by
  induction cs generalizing s with
  | nil => simp [restartsDuring]
  | cons c cs ih => simp [restartsDuring, ih, Bool.or_assoc]

/-- The telemetry counts every buffer emitted since the last stats read that restarted it. Over
any run the client only appends to what it emitted, and the run splits as `pre ++ post` where no
call of `post` restarts the counters and either no call restarted them (`pre = []`), with
`packets_sent` its count before the run plus all the buffers emitted, sent and looped back alike,
or `pre` ends with the stats read that last restarted them, with `packets_sent` the number of
buffers emitted after it; both modulo `2 ^ 32`. -/
theorem packetsSent_counts_emissions (s : ClientState) (calls : List (ClientCall Address)) :
    let r : ClientState := s.run env master calls
    (∃ new : List Emission, r.emitted = s.emitted ++ new) ∧
    ∃ (pre post : List (ClientCall Address)) (sincePre : List Emission),
      calls = pre ++ post ∧ (s.run env master pre).restartsDuring env master post = false ∧
      r.emitted = (s.run env master pre).emitted ++ sincePre ∧
      ((pre = [] ∧ r.packetsSent.toNat = (s.packetsSent.toNat + sincePre.length) % 2 ^ 32) ∨
        ∃ pre' now, pre = pre' ++ [.networkStats now] ∧
          (ClientCall.networkStats now : ClientCall Address).restarts (s.run env master pre') ∧
          r.packetsSent.toNat = sincePre.length % 2 ^ 32) := by
  induction calls using List.reverseRecOn with
  | nil =>
    exact ⟨⟨[], by simp⟩, [], [], [], rfl, rfl, by simp,
      .inl ⟨rfl, by simpa using (toNat_mod_uint32 _).symm⟩⟩
  | append_singleton cs c ih =>
    obtain ⟨⟨new, hnew⟩, pre, post, sincePre, hcalls, hpost, hsince, hcount⟩ := ih
    obtain ⟨newc, hc, hpc⟩ := packetsSent_step env master (s.run env master cs) c
    have hrun : s.run env master (cs ++ [c]) = (s.run env master cs).step env master c := by
      rw [run_append]; rfl
    refine ⟨⟨new ++ newc, by rw [hrun, hc, hnew, List.append_assoc]⟩, ?_⟩
    cases hr : c.restarts (s.run env master cs)
    case false =>
      -- an ordinary call extends what follows the last restart
      rw [hr, if_neg Bool.false_ne_true] at hpc
      refine ⟨pre, post ++ [c], sincePre ++ newc, by rw [hcalls, List.append_assoc], ?_,
        by rw [hrun, hc, hsince, List.append_assoc], ?_⟩
      · rw [restartsDuring_append, hpost, ← run_append, ← hcalls]
        simp [restartsDuring, hr]
      · rw [hrun, hpc, List.length_append]
        rcases hcount with ⟨rfl, h⟩ | ⟨pre', now, hpre, hnow, h⟩
        · exact .inl ⟨rfl, by rw [h]; omega⟩
        · exact .inr ⟨pre', now, hpre, hnow, by rw [h]; omega⟩
    case true =>
      -- a restarting call is a stats read, and nothing has followed it yet
      obtain ⟨now, rfl⟩ : ∃ now, c = .networkStats now := by
        cases c <;> simp_all [ClientCall.restarts]
      refine ⟨cs ++ [.networkStats now], [], [], by simp, rfl, by simp,
        .inr ⟨cs, now, rfl, hr, ?_⟩⟩
      rw [hrun, hpc, hr, if_pos rfl]
      rfl

end Calls

end ClientState

end WitcherSeamless
