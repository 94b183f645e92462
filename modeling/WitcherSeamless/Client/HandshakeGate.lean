import WitcherSeamless.Wire.Packets
import Mathlib.Data.Finset.Basic

/-!
# The handshake gate of the client's receive handlers

The client registers five handlers, `receive_inventory_safe` (`loot`),
`receive_session_state_safe` (`quest_lock`), `receive_achievement_safe` (`achievement`),
`receive_heartbeat_safe` (`heartbeat`) and `receive_handshake_safe` (`handshake`). Each counts the
message in the telemetry, then runs `receive_packet_safe`, which drops a message that is not from
the master server, drops it while the handshake is incomplete unless it is a handshake, reads the
4-byte tag and drops the message when it is not `game::PROTOCOL`, and runs the handler; an
exception anywhere (`read<T>` on a short buffer) is caught and the message discarded. The
handlers skip the tag and read their record; only two change the client:

* the handshake handler, on a record whose `session_id` is non-zero, stores the session id and the
  player name and sets `g_handshake_complete`;
* the achievement handler inserts the achievement id into `m_unlocked_achievements` unless it is
  there already.

`handshake_gate` shows the gate for every sequence of messages: the handshake flag is set exactly
when one of the messages was a completing handshake, and a message blocked by the gate, with a
wrong tag, with a truncated record or from another address changes nothing but the counter.

## Main results

* `receiveSafe_eq`: what one `receive_*_safe` call does, as one condition on the message.
* `handshakeComplete_run`: the handshake flag after any sequence of messages.
* `receive_of_dropped`: a dropped message only bumps the receive counter.
* `handshake_gate`: the two together, from the load-time state.

Source: `src/unnamed/part_011`, `set_handshake_complete`, `receive_packet_safe`, the five
`receive_*_safe` handlers and their registration in `post_load`.
-/

namespace WitcherSeamless

/-- The client globals the receive handlers touch. -/
structure GateState where
  handshakeComplete : Bool
  sessionId : UInt64
  handshakePlayerName : StdString
  unlockedAchievements : Finset StdString
  packetsReceived : UInt32
  deriving DecidableEq

/-- A channel with a receive handler. -/
inductive GateChannel
  /-- `loot`, handled by `receive_inventory_safe`. -/
  | loot
  /-- `quest_lock`, handled by `receive_session_state_safe`. -/
  | questLock
  /-- `achievement`, handled by `receive_achievement_safe`. -/
  | achievement
  /-- `heartbeat`, handled by `receive_heartbeat_safe`. -/
  | heartbeat
  /-- `handshake`, handled by `receive_handshake_safe`. -/
  | handshake
  deriving DecidableEq

/-- An inbound message: its channel, the address it came from and its bytes. -/
structure InboundMessage (Address : Type) where
  channel : GateChannel
  source : Address
  data : List UInt8

/-- `SCRIPT_VERSION`. -/
def scriptVersion : UInt32 := 1

namespace GateState

/-- The globals at load time. -/
def init : GateState := ⟨false, 0, [], ∅, 0⟩

/-- The client apart from the telemetry counter. -/
def eraseCounter (s : GateState) : GateState := { s with packetsReceived := 0 }

/-- `g_telemetry.increment_received()`. -/
def incrementReceived (s : GateState) : GateState :=
  { s with packetsReceived := s.packetsReceived + 1 }

/-- `set_handshake_complete(session_id, player_name)`. -/
def setHandshakeComplete (s : GateState) (sessionId : UInt64) (playerName : StdString) : GateState :=
  { s with sessionId := sessionId, handshakePlayerName := playerName, handshakeComplete := true }

/-- A handler body after `buffer.read<uint32_t>()` skipped the tag: read the record of `size`
bytes (a short buffer throws, `none`), then act on it. -/
def readThen (size : Nat) (act : List UInt8 → GateState → GateState) (data : List UInt8)
    (s : GateState) : Option GateState := do
  let (_, b) ← (BufferDeserializer.mk data).read 4
  let (record, _) ← b.read size
  pure (act record s)

/-- The handshake handler's action on its record. -/
def handshakeAct (record : List UInt8) (s : GateState) : GateState :=
  if HandshakePacket.sessionId record ≠ 0 then
    s.setHandshakeComplete (HandshakePacket.sessionId record) (HandshakePacket.playerName record)
  else s

/-- The achievement handler's action on its record. -/
def achievementAct (record : List UInt8) (s : GateState) : GateState :=
  let id := AchievementPacket.achievementId record
  if id ∈ s.unlockedAchievements then s
  else { s with unlockedAchievements := insert id s.unlockedAchievements }

/-- The heartbeat handler's action: a version mismatch blocks the sync, a match is logged; both
leave the client as it is. -/
def heartbeatAct (record : List UInt8) (s : GateState) : GateState :=
  if HeartbeatPacket.scriptVersion record ≠ scriptVersion then s else s

variable {Address : Type} [DecidableEq Address] (protocol : UInt32) (master : Address)

/-- `receive_packet_safe(name, address, data, handler, require_handshake)`, after the telemetry
count. -/
def receivePacketSafe (handler : List UInt8 → GateState → Option GateState)
    (requireHandshake : Bool) (address : Address) (data : List UInt8) (s : GateState) :
    GateState :=
  if address ≠ master then s
  else if requireHandshake && !s.handshakeComplete then s
  else match (BufferDeserializer.mk data).read 4 with
    | none => s
    | some (tag, _) => if leValue tag ≠ protocol.toNat then s else (handler data s).getD s

/-- A `receive_*_safe` handler: count the message, then `receive_packet_safe` with the handler that
reads a record of `size` bytes and applies `act`. -/
def receiveSafe (size : Nat) (act : List UInt8 → GateState → GateState) (requireHandshake : Bool)
    (address : Address) (data : List UInt8) (s : GateState) : GateState :=
  receivePacketSafe protocol master (readThen size act) requireHandshake address data
    s.incrementReceived

/-- `receive_inventory_safe`: reads a `loot_packet` and logs it. -/
def receiveInventorySafe (address : Address) (data : List UInt8) (s : GateState) : GateState :=
  receiveSafe protocol master lootPacketSize (fun _ s => s) true address data s

/-- `receive_session_state_safe`: reads a `quest_lock_packet` and logs it. -/
def receiveSessionStateSafe (address : Address) (data : List UInt8) (s : GateState) : GateState :=
  receiveSafe protocol master questLockPacketSize (fun _ s => s) true address data s

/-- `receive_achievement_safe`. -/
def receiveAchievementSafe (address : Address) (data : List UInt8) (s : GateState) : GateState :=
  receiveSafe protocol master achievementPacketSize achievementAct true address data s

/-- `receive_heartbeat_safe`. -/
def receiveHeartbeatSafe (address : Address) (data : List UInt8) (s : GateState) : GateState :=
  receiveSafe protocol master heartbeatPacketSize heartbeatAct true address data s

/-- `receive_handshake_safe`: the one handler that does not require the handshake. -/
def receiveHandshakeSafe (address : Address) (data : List UInt8) (s : GateState) : GateState :=
  receiveSafe protocol master handshakePacketSize handshakeAct false address data s

/-- The record size each channel's handler reads. -/
def recordSize : GateChannel → Nat
  | .loot => lootPacketSize
  | .questLock => questLockPacketSize
  | .achievement => achievementPacketSize
  | .heartbeat => heartbeatPacketSize
  | .handshake => handshakePacketSize

/-- The dispatch of `network::on`: a message goes to its channel's handler. -/
def receive (s : GateState) (m : InboundMessage Address) : GateState :=
  match m.channel with
  | .loot => receiveInventorySafe protocol master m.source m.data s
  | .questLock => receiveSessionStateSafe protocol master m.source m.data s
  | .achievement => receiveAchievementSafe protocol master m.source m.data s
  | .heartbeat => receiveHeartbeatSafe protocol master m.source m.data s
  | .handshake => receiveHandshakeSafe protocol master m.source m.data s

/-- Messages received one after the other. -/
def run (s : GateState) (msgs : List (InboundMessage Address)) : GateState :=
  msgs.foldl (receive protocol master) s

/-! ### One message -/

/-- The action of each channel's handler on its record. -/
def channelAct : GateChannel → List UInt8 → GateState → GateState
  | .achievement => achievementAct
  | .heartbeat => heartbeatAct
  | .handshake => handshakeAct
  | _ => fun _ s => s

/-- Every channel goes through the one `receive_*_safe` shape, the handshake alone without the
gate. -/
theorem receive_eq (s : GateState) (m : InboundMessage Address) :
    s.receive protocol master m = receiveSafe protocol master (recordSize m.channel)
      (channelAct m.channel) (m.channel != .handshake) m.source m.data s := by
  unfold receive; cases m.channel <;> rfl

theorem readThen_eq (size : Nat) (act : List UInt8 → GateState → GateState) (data : List UInt8)
    (s : GateState) : readThen size act data s =
      if 4 + size ≤ data.length then some (act ((data.drop 4).take size) s) else none := by
  unfold readThen BufferDeserializer.read
  by_cases h4 : 4 ≤ data.length <;> by_cases h : 4 + size ≤ data.length <;>
    simp [h4, h, Nat.le_sub_iff_add_le', List.drop_drop]; omega

/-- The message passes `receive_packet_safe` and its handler reads a whole record. -/
def Accepted (size : Nat) (requireHandshake : Bool) (address : Address) (data : List UInt8)
    (s : GateState) : Prop :=
  address = master ∧ (requireHandshake = false ∨ s.handshakeComplete = true) ∧
    4 + size ≤ data.length ∧ leValue (data.take 4) = protocol.toNat

instance (size : Nat) (requireHandshake : Bool) (address : Address) (data : List UInt8)
    (s : GateState) : Decidable (Accepted protocol master size requireHandshake address data s) :=
  inferInstanceAs (Decidable (_ ∧ _ ∧ _ ∧ _))

/-- A `receive_*_safe` handler counts the message, and acts on the record exactly when the
message is accepted. -/
theorem receiveSafe_eq (size : Nat) (act : List UInt8 → GateState → GateState)
    (requireHandshake : Bool) (address : Address) (data : List UInt8) (s : GateState) :
    receiveSafe protocol master size act requireHandshake address data s =
      if Accepted protocol master size requireHandshake address data s then
        act ((data.drop 4).take size) s.incrementReceived
      else s.incrementReceived := by
  unfold receiveSafe receivePacketSafe Accepted
  have hgate : (requireHandshake && !s.incrementReceived.handshakeComplete) = true ↔
      ¬ (requireHandshake = false ∨ s.handshakeComplete = true) := by
    cases requireHandshake <;> simp [incrementReceived]
  by_cases ha : address = master
  swap
  · simp [ha]
  by_cases hg : requireHandshake = false ∨ s.handshakeComplete = true
  swap
  · simp [ha, hg, hgate]
  rcases Nat.lt_or_ge data.length 4 with h4 | h4
  · -- `read<uint32_t>` throws
    have hn : ¬ 4 + size ≤ data.length := by omega
    simp [ha, hg, hgate, hn, (read_eq_none_iff _ _).2 h4]
  · have hr := (read_eq_some_iff 4 ⟨data⟩ (data.take 4) ⟨data.drop 4⟩).2 ⟨h4, rfl, rfl⟩
    by_cases h : 4 + size ≤ data.length <;> simp [ha, hg, hgate, hr, h, readThen_eq]

theorem packetsReceived_channelAct (c : GateChannel) (record : List UInt8) (s : GateState) :
    (channelAct c record s).packetsReceived = s.packetsReceived := by
  cases c <;> simp only [channelAct, achievementAct, heartbeatAct, handshakeAct] <;> split_ifs <;> rfl

/-- Only the handshake handler touches the handshake flag. -/
theorem handshakeComplete_channelAct {c : GateChannel} (hc : c ≠ .handshake)
    (record : List UInt8) (s : GateState) :
    (channelAct c record s).handshakeComplete = s.handshakeComplete := by
  cases c <;> simp only [channelAct, achievementAct, heartbeatAct] <;> try split_ifs
  all_goals first | rfl | exact absurd rfl hc

/-- Every handled message is counted once, whatever becomes of it. -/
@[simp] theorem packetsReceived_receive (s : GateState) (m : InboundMessage Address) :
    (s.receive protocol master m).packetsReceived = s.packetsReceived + 1 := by
  rw [receive_eq, receiveSafe_eq]
  split_ifs <;> simp [packetsReceived_channelAct, incrementReceived]

/-! ### The gate -/

/-- A message that completes the handshake: a handshake from the master server that starts with
`game::PROTOCOL` and holds a whole `handshake_packet` with a non-zero `session_id`. -/
def CompletesHandshake (m : InboundMessage Address) : Prop :=
  m.channel = .handshake ∧ m.source = master ∧ 4 + handshakePacketSize ≤ m.data.length ∧
    leValue (m.data.take 4) = protocol.toNat ∧
    HandshakePacket.sessionId ((m.data.drop 4).take handshakePacketSize) ≠ 0

/-- A message every handler drops: a gameplay message before the handshake, a message from
another address, one whose tag is not `game::PROTOCOL`, or one too short for its record. -/
def Dropped (s : GateState) (m : InboundMessage Address) : Prop :=
  (s.handshakeComplete = false ∧ m.channel ≠ .handshake) ∨ m.source ≠ master ∨
    (4 ≤ m.data.length ∧ leValue (m.data.take 4) ≠ protocol.toNat) ∨
    m.data.length < 4 + recordSize m.channel

theorem handshakeComplete_receive (s : GateState) (m : InboundMessage Address) :
    (s.receive protocol master m).handshakeComplete = true ↔
      s.handshakeComplete = true ∨ CompletesHandshake protocol master m := by
  rw [receive_eq, receiveSafe_eq]
  by_cases hc : m.channel = .handshake
  · simp only [Accepted, CompletesHandshake, hc, channelAct, recordSize, handshakeAct]
    split_ifs <;> simp_all [setHandshakeComplete, incrementReceived]
  · have hn : ¬ CompletesHandshake protocol master m := fun h => hc h.1
    split_ifs <;> simp [handshakeComplete_channelAct hc, incrementReceived, hn]

/-- The handshake flag after a run: set exactly when the state started with it or one of the
messages completed the handshake. -/
theorem handshakeComplete_run (s : GateState) (msgs : List (InboundMessage Address)) :
    (s.run protocol master msgs).handshakeComplete = true ↔
      s.handshakeComplete = true ∨ ∃ m ∈ msgs, CompletesHandshake protocol master m := by
  induction msgs generalizing s with
  | nil => simp [run]
  | cons m ms ih =>
    rw [run, List.foldl_cons, ← run, ih, handshakeComplete_receive]
    simp [or_assoc]

omit [DecidableEq Address] in
theorem not_accepted_of_dropped {s : GateState} {m : InboundMessage Address}
    (h : Dropped protocol master s m) :
    ¬ Accepted protocol master (recordSize m.channel) (m.channel != .handshake) m.source m.data s :=
  fun ⟨ha, hg, hl, ht⟩ => by
    rcases h with ⟨hf, hc⟩ | h | ⟨-, h⟩ | h
    · simp [hf, hc] at hg
    · exact h ha
    · exact h ht
    · omega

/-- A dropped message is only counted. -/
theorem receive_of_dropped {s : GateState} {m : InboundMessage Address}
    (h : Dropped protocol master s m) : s.receive protocol master m = s.incrementReceived := by
  rw [receive_eq, receiveSafe_eq, if_neg (not_accepted_of_dropped protocol master h)]

/-- The handshake gate over every sequence of messages: the flag is set exactly once a message
completed the handshake, and a dropped message changes nothing but the receive counter. -/
theorem handshake_gate (msgs : List (InboundMessage Address)) :
    ((GateState.init.run protocol master msgs).handshakeComplete = true ↔
      ∃ m ∈ msgs, CompletesHandshake protocol master m) ∧
    ∀ (s : GateState) (m : InboundMessage Address), Dropped protocol master s m →
      (s.receive protocol master m).eraseCounter = s.eraseCounter := by
  refine ⟨by simp [handshakeComplete_run, init], fun s m h => ?_⟩
  rw [receive_of_dropped protocol master h]
  rfl

end GateState

end WitcherSeamless
