import WitcherSeamless.Client.Outbound
import Mathlib.Data.List.Infix

/-!
# Shared loot, from the pickup to the wire

`W3mOnItemLooted(itemName, quantity, containerTag)` decides which pickups the party shares. Crowns
go to `W3mInventoryBridge` as a drop that is not a relic; any other item goes as a relic or boss
drop when its highest quality is at least `4` or its container's tag contains `boss` or `Boss`;
nothing else is handed over. The client's bridge queues each drop, skipping a relic or boss drop
whose name and quantity it queued before unless the bridge counts the name as money (`Crowns` or
`crowns`), and its 100 ms tick sends the whole queue on `loot`.

`sharedLoot` says which packets a run of pickups should share: every `Crowns` pickup, every relic
or boss pickup named `crowns`, and each other relic or boss pickup unless one with its name and
quantity was shared before; no other pickup. The scripts and the client together share exactly
that, in order: after the pickups and the tick, the loot buffers the client has emitted are those
emitted before, then the packets queued before, then `sharedLoot` of the pickups, and nothing is
left queued (`pickups_shared_in_order`).

## Main definitions

* `Pickup`, `strContains`, `Pickup.isRelicOrBoss`, `w3mOnItemLooted`.
* `sharedLoot`: the sharing rule.

Source: `data/scripts/local/w3mp_final.ws`, `W3mOnItemLooted` (the same in
`w3mp_refactored.ws`), and `W3mInventoryBridge_Queue` in `src/unnamed/part_011`.
-/

namespace WitcherSeamless

/-- `StrContains(str, match)`: whether `sub` occurs in `str`. -/
def strContains (str sub : StdString) : Bool := decide (sub <:+: str)

/-- A pickup as `W3mOnItemLooted` sees it: the item's name and the container's tag as strings, the
quantity, the item's `maxQuality` from `GetItemQualityFromName`, and the bridge's clock when the
drop reaches it. -/
structure Pickup where
  itemName : StdString
  quantity : BitVec 32
  containerTag : StdString
  maxQuality : ℤ
  now : UInt64

namespace Pickup

/-- `isRelicOrBoss = (itemQuality >= 4 || isBossContainer)`. -/
def isRelicOrBoss (p : Pickup) : Bool :=
  let isBossContainer :=
    strContains p.containerTag (asciiBytes "boss") || strContains p.containerTag (asciiBytes "Boss")
  decide (4 ≤ p.maxQuality) || isBossContainer

/-- The packet the bridge queues for the pickup. -/
def packet (guid : UInt64) (p : Pickup) : W3mLootPacket :=
  W3mInventoryBridge.lootPacket guid p.itemName ⟨p.quantity⟩ p.now

/-- The name and quantity the bridge keys a relic or boss drop by. -/
def key (p : Pickup) : StdString × UInt32 := (p.itemName, ⟨p.quantity⟩)

end Pickup

/-- `W3mOnItemLooted(itemName, quantity, containerTag)`: the `W3mInventoryBridge` call it makes,
if any. -/
def w3mOnItemLooted {Address : Type} (p : Pickup) : Option (ClientCall Address) :=
  if p.itemName = asciiBytes "Crowns" then some (.inventoryQueue p.itemName p.quantity false p.now)
  else if p.isRelicOrBoss then some (.inventoryQueue p.itemName p.quantity true p.now)
  else none

/-- The packets a run of pickups should share, the relic and boss pairs `seen` having been shared:
every `Crowns` pickup and every relic or boss pickup the bridge counts as money; each other relic
or boss pickup unless its name and quantity were shared; no other pickup. -/
def sharedLoot (guid : UInt64) : List (StdString × UInt32) → List Pickup → List W3mLootPacket
  | _, [] => []
  | seen, p :: ps =>
    if p.itemName = asciiBytes "Crowns" ∨ (p.isRelicOrBoss ∧ isCrowns p.itemName) then
      p.packet guid :: sharedLoot guid seen ps
    else if p.isRelicOrBoss ∧ p.key ∉ seen then p.packet guid :: sharedLoot guid (p.key :: seen) ps
    else sharedLoot guid seen ps

/-- The drop a pickup hands to the bridge, if any. -/
def Pickup.drop? (p : Pickup) : Option Drop := (@w3mOnItemLooted Unit p).bind ClientCall.drop?

theorem drop?_w3mOnItemLooted {Address : Type} (p : Pickup) :
    (@w3mOnItemLooted Address p).bind ClientCall.drop? = p.drop? := by
  unfold Pickup.drop? w3mOnItemLooted
  split_ifs <;> rfl

theorem isCrowns_of_eq {n : StdString} (h : n = asciiBytes "Crowns") : isCrowns n = true := by
  simp [isCrowns, h]

/-- The scripts' choice of drops, followed by the bridge's forwarding, is the sharing rule. -/
theorem forwarded_drops_eq_sharedLoot (guid : UInt64) (seen : List (StdString × UInt32))
    (ps : List Pickup) : Drop.forwarded guid seen (ps.filterMap Pickup.drop?) = sharedLoot guid seen ps := by
  induction ps generalizing seen with
  | nil => rfl
  | cons p ps ih =>
    have hd : p.drop? = if p.itemName = asciiBytes "Crowns" then
        some ⟨p.itemName, ⟨p.quantity⟩, false, p.now⟩
      else if p.isRelicOrBoss then some ⟨p.itemName, ⟨p.quantity⟩, true, p.now⟩ else none := by
      unfold Pickup.drop? w3mOnItemLooted
      split_ifs <;> rfl
    rw [List.filterMap_cons, hd, sharedLoot]
    split_ifs <;> simp_all [Drop.forwarded, Drop.Forwards, Drop.see, isDeduplicated,
      Pickup.packet, Pickup.key]

section Client

variable {Address : Type} [DecidableEq Address] (env : ClientEnv) (master : Address)

/-- The pickups of a run, then the 100 ms tick: the loot buffers the client emits are those it
emitted before, then the packets queued before, then the packets of the sharing rule for the
pickups, in order; nothing is left queued. -/
theorem pickups_shared_in_order (s : ClientState) {seen : List (StdString × UInt32)}
    (h : s.bridge.Represents seen) (pickups : List Pickup) :
    let r : ClientState :=
      s.run env master (pickups.filterMap w3mOnItemLooted ++ [.processQueue])
    r.bridge.outgoingQueue = [] ∧
      lootPayloads r.emitted = lootPayloads s.emitted ++
        (s.bridge.outgoingQueue ++ sharedLoot env.localGuid seen pickups).map
          (fun p => tagged env.protocol p.bytes) := by
  intro r
  have hq : r.bridge.outgoingQueue = [] := by
    show (ClientState.run env master s (pickups.filterMap w3mOnItemLooted ++
      [.processQueue])).bridge.outgoingQueue = []
    rw [ClientState.run_append]
    exact ClientState.outgoingQueue_drainQueue env master _ _ rfl
  have hrun := ClientState.lootPayloads_run env master s h
    (pickups.filterMap w3mOnItemLooted ++ [.processQueue])
  have hdrops : (pickups.filterMap w3mOnItemLooted ++
      ([.processQueue] : List (ClientCall Address))).filterMap ClientCall.drop? =
      pickups.filterMap Pickup.drop? := by
    rw [List.filterMap_append, List.filterMap_filterMap]
    simp only [drop?_w3mOnItemLooted]
    exact List.append_nil _
  rw [hq, List.map_nil, List.append_nil, hdrops, forwarded_drops_eq_sharedLoot] at hrun
  exact ⟨hq, hrun⟩

end Client

/-- Crowns, a relic twice, a common item and a boss's common item. -/
def lootRun : List Pickup :=
  [⟨asciiBytes "Crowns", 30, [], 1, 0⟩, ⟨asciiBytes "Relic", 1, [], 4, 1⟩,
    ⟨asciiBytes "Relic", 1, [], 4, 2⟩, ⟨asciiBytes "Rag", 1, asciiBytes "chest", 1, 3⟩,
    ⟨asciiBytes "Rag", 1, asciiBytes "griffin_boss", 1, 4⟩]

/-- From load time, the crowns, the first relic and the boss's item are shared. -/
theorem loot_run_shared :
    ClientState.init.bridge.Represents [] ∧
      (let r : ClientState := ClientState.init.run constHashEnv ()
          (lootRun.filterMap w3mOnItemLooted ++ [.processQueue])
       r.bridge.outgoingQueue = [] ∧
        lootPayloads r.emitted = lootPayloads ClientState.init.emitted ++
          (ClientState.init.bridge.outgoingQueue ++ sharedLoot constHashEnv.localGuid [] lootRun).map
            (fun p => tagged constHashEnv.protocol p.bytes)) :=
  ⟨rfl, @pickups_shared_in_order Unit _ constHashEnv () ClientState.init [] rfl lootRun⟩

example : (sharedLoot 1 [] lootRun).map (fun p => p.quantity) = [30, 1, 1] := by decide

end WitcherSeamless
