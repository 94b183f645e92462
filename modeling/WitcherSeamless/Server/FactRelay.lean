import WitcherSeamless.Narrative.QuestSync

/-!
# The master server's relay of facts

`handle_fact_broadcast` reads the 4-byte protocol tag and drops the message when it is not
`game::PROTOCOL`; it then reads one more byte as a `packet_type` and drops the message unless it
is `packet_type::fact = 1`; otherwise it sends the received bytes unchanged on the `fact` channel
to every authenticated client other than the sender. `handle_attack_broadcast` is the same handler
for `packet_type::attack = 2` on `attack`; `handle_cutscene_broadcast` also checks its type byte
but sends to every authenticated client, the sender included.

The client writes no type byte: `broadcast_quest_fact` sends the tag followed directly by the
`fact_packet`, whose first byte is the first byte of the fact name. The server therefore relays a
client's fact exactly when the name starts with the byte `1` (`handleFactBroadcast_factMessage`).

Source: `src/server/server.cpp`, `handle_fact_broadcast`, `handle_attack_broadcast`,
`handle_cutscene_broadcast`; `quest_sync.cpp`, `broadcast_quest_fact`.
-/

namespace WitcherSeamless

/-- The part of the server's `client` record the broadcast handlers read: `is_authenticated()`,
whose definition is in `server.hpp`, outside the sources, so it is given per client. -/
structure ServerClient where
  isAuthenticated : Bool
  deriving DecidableEq

section Relay

variable {Address : Type} [DecidableEq Address]

/-- The sends of a relay: the received bytes on `channel` to every authenticated client, skipping
the sender unless `toSender`. -/
def relayTo (channel : String) (toSender : Bool) (clients : List (Address × ServerClient))
    (source : Address) (data : List UInt8) : List (Address × Message) :=
  clients.filterMap fun e =>
    if !toSender && e.1 = source then none
    else if e.2.isAuthenticated then some (e.1, ⟨channel, data⟩) else none

/-- The checks shared by the broadcast handlers: the protocol tag, then a one-byte
`packet_type` equal to `type`. A short buffer makes `read<T>` throw out of the handler, which sends
nothing. -/
def typedRelay (type : Nat) (channel : String) (toSender : Bool) (protocol : UInt32)
    (clients : List (Address × ServerClient)) (source : Address) (data : List UInt8) :
    List (Address × Message) :=
  match (BufferDeserializer.mk data).read 4 with
  | none => []
  | some (tag, b) =>
    if leValue tag ≠ protocol.toNat then []
    else match b.read 1 with
      | none => []
      | some (t, _) => if leValue t ≠ type then [] else relayTo channel toSender clients source data

/-- `handle_fact_broadcast`: type `packet_type::fact = 1`, channel `fact`, sender skipped. -/
def handleFactBroadcast (protocol : UInt32) (clients : List (Address × ServerClient))
    (source : Address) (data : List UInt8) : List (Address × Message) :=
  typedRelay 1 "fact" false protocol clients source data

/-- `handle_attack_broadcast`: type `packet_type::attack = 2`, channel `attack`, sender skipped. -/
def handleAttackBroadcast (protocol : UInt32) (clients : List (Address × ServerClient))
    (source : Address) (data : List UInt8) : List (Address × Message) :=
  typedRelay 2 "attack" false protocol clients source data

/-- `handle_cutscene_broadcast`: type `packet_type::cutscene = 3`, channel `cutscene`, and the
sender is not skipped. -/
def handleCutsceneBroadcast (protocol : UInt32) (clients : List (Address × ServerClient))
    (source : Address) (data : List UInt8) : List (Address × Message) :=
  typedRelay 3 "cutscene" true protocol clients source data

end Relay

/-! ### The client's fact message on the server -/

/-- The first byte of the `fact_name` field that `copy_string` fills: the name's first byte, or
the terminating `NUL` of an empty name. -/
theorem head_copyString_zero (n : StdString) :
    (copyString (by decide) (CharArray.zero maxFactNameLength) n).data.head? = some (n.headD 0) := by
  cases n with
  | nil => rfl
  | cons b bs =>
    have : min (bs.length + 1) (maxFactNameLength - 1) = (min bs.length 126) + 1 := by
      simp [maxFactNameLength]; omega
    simp [copyString, this, List.take_succ_cons]

/-- The bytes after the tag of the client's fact message start with the name's first byte. -/
theorem factMessage_payload (protocol : UInt32) (n : StdString) (v : BitVec 32) (now : UInt64) :
    ∃ rest, (factMessage protocol n v now).payload = u32Bytes protocol ++ n.headD 0 :: rest := by
  have h := head_copyString_zero n
  obtain ⟨b, rest, hb⟩ : ∃ b rest, (copyString (by decide) (CharArray.zero maxFactNameLength) n).data
      = b :: rest := by
    cases hd : (copyString (by decide) (CharArray.zero maxFactNameLength) n).data with
    | nil => simp [hd] at h
    | cons b rest => exact ⟨b, rest, rfl⟩
  rw [hb, List.head?_cons, Option.some_inj] at h
  subst h
  exact ⟨rest ++ i32Bytes v ++ zeros 4 ++ u64Bytes now, by
    simp [factMessage, tagged, FactPacket.bytes, hb]⟩

/-- The server's verdict on every fact message a client sends: it relays the bytes to the
authenticated clients other than the sender exactly when the fact name starts with the byte `1`,
the value of `packet_type::fact`, and drops every other message. -/
theorem handleFactBroadcast_factMessage {Address : Type} [DecidableEq Address]
    (protocol : UInt32) (clients : List (Address × ServerClient)) (source : Address)
    (n : StdString) (v : BitVec 32) (now : UInt64) :
    handleFactBroadcast protocol clients source (factMessage protocol n v now).payload =
      if n.headD 0 = 1 then relayTo "fact" false clients source (factMessage protocol n v now).payload
      else [] := by
  obtain ⟨rest, hp⟩ := factMessage_payload protocol n v now
  have h4 : (BufferDeserializer.mk (factMessage protocol n v now).payload).read 4 =
      some (u32Bytes protocol, ⟨n.headD 0 :: rest⟩) := by
    simp [BufferDeserializer.read, hp]
  have h1 : (BufferDeserializer.mk (n.headD 0 :: rest)).read 1 = some ([n.headD 0], ⟨rest⟩) := by
    simp [BufferDeserializer.read]
  have hb : leValue [n.headD 0] = 1 ↔ n.headD 0 = 1 := by
    simp only [leValue, Nat.mul_zero, Nat.add_zero]
    exact ⟨fun h => UInt8.eq_of_toBitVec_eq (BitVec.eq_of_toNat_eq h), fun h => h ▸ rfl⟩
  simp only [handleFactBroadcast, typedRelay, h4, leValue_u32Bytes, ne_eq, not_true_eq_false,
    if_false, h1, hb, ite_not]

/-- The fact `killed_griffin = 1`, broadcast by a client, reaches no other client: whatever the
protocol tag, the server reads the name's first byte `k` as the packet type and drops it. -/
theorem killed_griffin_fact_not_relayed (protocol : UInt32) :
    handleFactBroadcast protocol [((1 : Nat), ⟨true⟩)] 0
      (factMessage protocol ("killed_griffin".toList.map fun c => c.toNat.toUInt8) 1 0).payload =
      [] := by
  rw [handleFactBroadcast_factMessage, if_neg (by decide)]

end WitcherSeamless
