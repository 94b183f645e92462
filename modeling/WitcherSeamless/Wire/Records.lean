import WitcherSeamless.Wire.Packets

/-!
# The records the client writes

`W3mInitiateHandshake`, `W3mBroadcastAchievement`, `broadcast_heartbeat` and the inventory
bridge's `process_queue` each fill a value-initialised record and write its memory image behind
the protocol tag. This file gives those images, with the layout of `WitcherSeamless.Wire.Packets`,
and shows that the field readers of the receive handlers read back what the writers put in:
the readers' offsets are the writers' offsets.

`W3mInitiateHandshake` copies the local name with `strncpy_s(packet.player_name, 32,
local_name.c_str(), _TRUNCATE)`: the C string, cut to 31 bytes, and its terminator
(`strncpyTruncate`); the bytes after the terminator keep the zeros of the value-initialised
record.

## Main definitions

* `W3mHandshakePacket`, `W3mAchievementPacket`, `W3mHeartbeatPacket`, `W3mLootPacket` and their
  `bytes`.
* `strncpyTruncate`.

## Main results

* `fieldAt_of_prefix`: reading a field at the offset its writer put it at gives the field.
* `extractString_strncpyTruncate`: the name a handshake carries.

Source: the `network::protocol` section of `src/common/network/interpolator.hpp` (the record
definitions and their `W3m` aliases), and the writers in `src/unnamed/part_011`.
-/

namespace WitcherSeamless

/-- `MAX_ITEM_NAME_LENGTH`. -/
def maxItemNameLength : Nat := 64

/-- `MAX_ACHIEVEMENT_ID_LENGTH`. -/
def maxAchievementIdLength : Nat := 64

/-- `network::protocol::handshake_packet` (`W3mHandshakePacket`). -/
structure W3mHandshakePacket where
  sessionId : UInt64
  playerGuid : UInt32
  protocolVersion : UInt32
  playerName : CharArray 32
  timestamp : UInt32

/-- The memory image of a `handshake_packet`. -/
def W3mHandshakePacket.bytes (p : W3mHandshakePacket) : List UInt8 :=
  u64Bytes p.sessionId ++ u32Bytes p.playerGuid ++ u32Bytes p.protocolVersion ++
    p.playerName.data ++ u32Bytes p.timestamp ++ zeros 4

/-- `network::protocol::achievement_packet` (`W3mAchievementPacket`). -/
structure W3mAchievementPacket where
  achievementId : CharArray maxAchievementIdLength
  playerGuid : UInt64
  timestamp : UInt32

/-- The memory image of an `achievement_packet`. -/
def W3mAchievementPacket.bytes (p : W3mAchievementPacket) : List UInt8 :=
  p.achievementId.data ++ u64Bytes p.playerGuid ++ u32Bytes p.timestamp ++ zeros 4

/-- `network::protocol::heartbeat_packet` (`W3mHeartbeatPacket`). -/
structure W3mHeartbeatPacket where
  playerGuid : UInt64
  totalCrowns : UInt32
  worldFactHash : UInt32
  scriptVersion : UInt32
  gameTime : UInt32
  weatherId : UInt16
  timestamp : UInt64

/-- The memory image of a `heartbeat_packet`. -/
def W3mHeartbeatPacket.bytes (p : W3mHeartbeatPacket) : List UInt8 :=
  u64Bytes p.playerGuid ++ u32Bytes p.totalCrowns ++ u32Bytes p.worldFactHash ++
    u32Bytes p.scriptVersion ++ u32Bytes p.gameTime ++ u16Bytes p.weatherId ++ zeros 6 ++
    u64Bytes p.timestamp

/-- `network::protocol::loot_packet` (`W3mLootPacket`). -/
structure W3mLootPacket where
  itemName : CharArray maxItemNameLength
  quantity : UInt32
  playerGuid : UInt64
  timestamp : UInt32
  deriving DecidableEq

/-- The memory image of a `loot_packet`. -/
def W3mLootPacket.bytes (p : W3mLootPacket) : List UInt8 :=
  p.itemName.data ++ u32Bytes p.quantity ++ zeros 4 ++ u64Bytes p.playerGuid ++
    u32Bytes p.timestamp ++ zeros 4

@[simp] theorem length_u16Bytes (x : UInt16) : (u16Bytes x).length = 2 := length_leBytes 2 _

@[simp] theorem length_zeros (n : Nat) : (zeros n).length = n := List.length_replicate _ _

@[simp] theorem W3mHandshakePacket.length_bytes (p : W3mHandshakePacket) :
    p.bytes.length = handshakePacketSize := by
  simp [W3mHandshakePacket.bytes, p.playerName.length_data, handshakePacketSize]

@[simp] theorem W3mAchievementPacket.length_bytes (p : W3mAchievementPacket) :
    p.bytes.length = achievementPacketSize := by
  simp [W3mAchievementPacket.bytes, p.achievementId.length_data, achievementPacketSize,
    maxAchievementIdLength]

@[simp] theorem W3mHeartbeatPacket.length_bytes (p : W3mHeartbeatPacket) :
    p.bytes.length = heartbeatPacketSize := by
  simp [W3mHeartbeatPacket.bytes, heartbeatPacketSize]

@[simp] theorem W3mLootPacket.length_bytes (p : W3mLootPacket) :
    p.bytes.length = lootPacketSize := by
  simp [W3mLootPacket.bytes, p.itemName.length_data, lootPacketSize, maxItemNameLength]

@[simp] theorem QuestLockPacket.length_bytes (p : QuestLockPacket) :
    p.bytes.length = questLockPacketSize := by
  simp [QuestLockPacket.bytes, questLockPacketSize]

/-! ### Reading back what was written -/

theorem UInt64.ofNat_toNat (x : UInt64) : UInt64.ofNat x.toNat = x := by
  apply UInt64.eq_of_toBitVec_eq
  apply BitVec.eq_of_toNat_eq
  show (BitVec.ofNat 64 x.toBitVec.toNat).toNat = x.toBitVec.toNat
  rw [BitVec.toNat_ofNat, Nat.mod_eq_of_lt x.toBitVec.isLt]

/-- A reader reads back what a writer put at its offset: the `size` bytes at `offset` of a record
whose image starts with `pre ++ field`, `pre` being `offset` bytes and `field` `size` bytes, are
`field`. -/
theorem fieldAt_of_prefix (pre field : List UInt8) {rec : List UInt8} {offset size : Nat}
    (ho : pre.length = offset) (hs : field.length = size) (h : pre ++ field <+: rec) :
    fieldAt rec offset size = field := by
  obtain ⟨post, rfl⟩ := h
  subst ho hs
  rw [fieldAt, List.append_assoc, List.drop_left, List.take_left]

/-! ### The handshake name -/

/-- `strncpy_s(dest, N, src.c_str(), _TRUNCATE)`: the C string `src`, the bytes before its first
`NUL`, cut to `N - 1` bytes and terminated; the rest of `dest` stays as it was. -/
def strncpyTruncate {N : Nat} (hN : 0 < N) (dest : CharArray N) (src : StdString) : CharArray N :=
  copyString hN dest (src.takeWhile (· ≠ 0))

/-- The bytes before the first `NUL` of a field `copy_string` filled: the source cut to `N - 1`
bytes, up to its first `NUL`. -/
theorem extractString_copyString_eq {N : Nat} (hN : 0 < N) (dest : CharArray N) (s : StdString) :
    extractString (copyString hN dest s) = (s.take (N - 1)).takeWhile (· ≠ 0) := by
  obtain ⟨rest, hdata, hlen⟩ := copyString_data hN dest s
  have hstr : strnlen (copyString hN dest s).data N =
      ((s.take (N - 1)).takeWhile (· ≠ 0)).length := by
    rw [strnlen, hdata, List.take_append_eq_append_take, List.take_of_length_le (by omega),
      show N - (s.take (N - 1)).length = (N - (s.take (N - 1)).length - 1) + 1 by omega,
      List.take_succ_cons, takeWhile_append_nul]
  rw [extractString, hstr, hdata,
    List.take_append_of_le_length (List.takeWhile_sublist _).length_le, take_length_takeWhile]

/-- The name a handshake record carries: the C string of the source, cut to `N - 1` bytes. -/
theorem extractString_strncpyTruncate {N : Nat} (hN : 0 < N) (dest : CharArray N)
    (s : StdString) :
    extractString (strncpyTruncate hN dest s) = (s.takeWhile (· ≠ 0)).take (N - 1) := by
  rw [strncpyTruncate, extractString_copyString_eq, List.takeWhile_eq_self_iff.2]
  intro x hx
  have := List.mem_takeWhile_imp (List.mem_of_mem_take hx)
  simpa using this

end WitcherSeamless
