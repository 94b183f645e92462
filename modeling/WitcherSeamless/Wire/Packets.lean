import WitcherSeamless.Wire.Bytes

/-!
# Record layouts

The records of `network::protocol` travel as their raw memory image behind the 4-byte protocol
tag. This file gives the image of every record that a modelled function writes or reads, with the
field offsets and the padding of the x86-64 layout the client and the server are built for
(`uint64_t` fields aligned to 8 bytes, the size rounded up to the largest alignment). Value-
initialised records (`packet{}`) have zero padding.

| record               | size | fields (offset)                                                     |
|----------------------|------|---------------------------------------------------------------------|
| `fact_packet`        | 144  | `fact_name[128]` (0), `value` (128), `timestamp` (136)              |
| `quest_lock_packet`  | 24   | `is_locked` (0), `scene_id` (4), `player_guid` (8), `timestamp` (16) |
| `handshake_packet`   | 56   | `session_id` (0), `player_guid` (8), `protocol_version` (12), `player_name[32]` (16), `timestamp` (48) |
| `achievement_packet` | 80   | `achievement_id[64]` (0), `player_guid` (64), `timestamp` (72)      |
| `loot_packet`        | 88   | `item_name[64]` (0), `quantity` (64), `player_guid` (72), `timestamp` (80) |
| `heartbeat_packet`   | 40   | `player_guid` (0), `total_crowns` (8), `world_fact_hash` (12), `script_version` (16), `game_time` (20), `weather_id` (24), `timestamp` (32) |

The readers take the bytes of a whole record, as `buffer.read<T>()` returns them, and pick the
fields the handlers use.

Source: the `network::protocol` section of `src/common/network/interpolator.hpp`, the record
definitions.
-/

namespace WitcherSeamless

/-! ### Sizes -/

/-- `sizeof(fact_packet)`. -/
def factPacketSize : Nat := 144
/-- `sizeof(quest_lock_packet)`. -/
def questLockPacketSize : Nat := 24
/-- `sizeof(handshake_packet)`. -/
def handshakePacketSize : Nat := 56
/-- `sizeof(achievement_packet)`. -/
def achievementPacketSize : Nat := 80
/-- `sizeof(loot_packet)`. -/
def lootPacketSize : Nat := 88
/-- `sizeof(heartbeat_packet)`. -/
def heartbeatPacketSize : Nat := 40

/-- `MAX_FACT_NAME_LENGTH`. -/
def maxFactNameLength : Nat := 128

/-! ### Records the client writes -/

/-- `network::protocol::fact_packet` (`W3mFactPacket`). -/
structure FactPacket where
  factName : CharArray maxFactNameLength
  value : BitVec 32
  timestamp : UInt64
  deriving DecidableEq

/-- The memory image of a `fact_packet`. -/
def FactPacket.bytes (p : FactPacket) : List UInt8 :=
  p.factName.data ++ i32Bytes p.value ++ zeros 4 ++ u64Bytes p.timestamp

@[simp] theorem FactPacket.length_bytes (p : FactPacket) : p.bytes.length = factPacketSize := by
  simp [FactPacket.bytes, p.factName.length_data, zeros, factPacketSize, maxFactNameLength]

/-- `network::protocol::quest_lock_packet` (`W3mQuestLockPacket`). -/
structure QuestLockPacket where
  isLocked : Bool
  sceneId : UInt32
  playerGuid : UInt64
  timestamp : UInt32
  deriving DecidableEq

/-- The memory image of a `quest_lock_packet`. -/
def QuestLockPacket.bytes (p : QuestLockPacket) : List UInt8 :=
  [if p.isLocked then 1 else 0] ++ zeros 3 ++ u32Bytes p.sceneId ++ u64Bytes p.playerGuid ++
    u32Bytes p.timestamp ++ zeros 4

/-- A message: the protocol tag written by `buffer.write(game::PROTOCOL)` followed by a record. -/
def tagged (protocol : UInt32) (record : List UInt8) : List UInt8 := u32Bytes protocol ++ record

/-! ### Fields the client reads -/

/-- The `size` bytes at `offset` of a record: what a member access reads from the record that
`buffer.read<T>()` returned. -/
def fieldAt (rec : List UInt8) (offset size : Nat) : List UInt8 := (rec.drop offset).take size

/-- `handshake_packet::session_id`, from the bytes of a handshake record. -/
def HandshakePacket.sessionId (rec : List UInt8) : UInt64 := UInt64.ofNat (leValue (fieldAt rec 0 8))

/-- `handshake_packet::player_name`, as the handler copies it:
`std::string(packet.player_name, strnlen(packet.player_name, 32))`. -/
def HandshakePacket.playerName (rec : List UInt8) : StdString :=
  let name := fieldAt rec 16 32
  name.take (strnlen name 32)

/-- `extract_string(packet.achievement_id)`, from the bytes of an achievement record. -/
def AchievementPacket.achievementId (rec : List UInt8) : StdString :=
  let id := fieldAt rec 0 64
  id.take (strnlen id 64)

/-- `heartbeat_packet::script_version`, from the bytes of a heartbeat record. -/
def HeartbeatPacket.scriptVersion (rec : List UInt8) : UInt32 :=
  UInt32.ofNat (leValue (fieldAt rec 16 4))

end WitcherSeamless
