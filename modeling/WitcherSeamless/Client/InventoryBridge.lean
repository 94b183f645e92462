import WitcherSeamless.Wire.Records
import Mathlib.Data.Nat.Digits
import Mathlib.Data.Finset.Basic

/-!
# The inventory bridge

`W3mInventoryBridge` collects loot for the master server. `queue_item(item_name, quantity,
is_relic_or_boss)` builds a `loot_packet` (the name `copy_string`'d into its field, the quantity,
the local guid and the clock) and appends it to `m_outgoing_queue`. A relic or boss drop that is
not crowns is first looked up in `m_processed_items` under the key
`item_name + "_" + std::to_string(quantity)`: a known key drops the call, a new one is added.
`process_queue` empties the queue front to back (`WitcherSeamless.Client.Outbound`).

The key is injective (`itemKey_inj`): the decimal digits of a quantity hold no underscore, so the
last underscore of a key splits it into the name and the quantity. The set of keys therefore
deduplicates exactly the drops with the same name and quantity. `Drop.forwarded` states this
without keys, over pairs: a deduplicated drop is forwarded unless an earlier forwarded one had its
name and quantity, and every other drop is forwarded; `queueItem_represents` shows one call of
`queue_item` does just that, the key set standing for the pairs seen.

## Main definitions

* `asciiBytes`, `toStringDec`, `itemKey`, `isCrowns`.
* `W3mInventoryBridge`, `W3mInventoryBridge.queueItem`.
* `Drop`, `Drop.forwarded`: the bridge as a function of its drops.

## Main results

* `decValue_toStringDec`, `itemKey_inj`.
* `queueItem_represents`: `queue_item` against the pairs it has seen.

Source: `src/unnamed/part_011`, `W3mInventoryBridge::queue_item` and `W3mInventoryBridge_Queue`.
-/

namespace WitcherSeamless

/-! ### The key of a drop -/

/-- The bytes of an ASCII string literal. -/
def asciiBytes (s : String) : StdString := s.toList.map fun c => c.toNat.toUInt8

/-- `std::to_string(n)` for an unsigned `n`: its decimal digits in ASCII, most significant first. -/
def toStringDec (n : Nat) : StdString :=
  if n = 0 then [48] else ((Nat.digits 10 n).map fun d => UInt8.ofNat (48 + d)).reverse

/-- The number an ASCII decimal string stands for. -/
def decValue (s : StdString) : Nat := Nat.ofDigits 10 (s.reverse.map fun b => b.toNat - 48)

theorem toNat_digitByte {d : Nat} (h : d < 10) : (UInt8.ofNat (48 + d)).toNat = 48 + d :=
  UInt8.toNat_ofNat_of_lt (by show 48 + d < 256; omega)

theorem decValue_toStringDec (n : Nat) : decValue (toStringDec n) = n := by
  unfold toStringDec decValue
  split_ifs with h
  · subst h; rfl
  · rw [List.reverse_reverse, List.map_map, List.map_congr_left (g := id) fun d hd => ?_,
      List.map_id, Nat.ofDigits_digits]
    simp only [Function.comp_apply, id, toNat_digitByte (Nat.digits_lt_base (by norm_num) hd)]
    omega

/-- A decimal string is a digit string: no underscore in it. -/
theorem underscore_not_mem_toStringDec (n : Nat) : (95 : UInt8) ∉ toStringDec n := by
  unfold toStringDec
  split_ifs
  · decide
  · simp only [List.mem_reverse, List.mem_map, not_exists, not_and]
    intro d hd e
    have hd10 := Nat.digits_lt_base (by norm_num) hd
    have h95 := congrArg UInt8.toNat e
    rw [toNat_digitByte hd10, show (95 : UInt8).toNat = 95 from rfl] at h95
    omega

theorem takeWhile_append_cons {x : UInt8} {p : List UInt8} (hp : x ∉ p) (rest : List UInt8) :
    (p ++ x :: rest).takeWhile (· ≠ x) = p := by
  induction p with
  | nil => simp
  | cons y p ih =>
    have hy : y ≠ x := fun e => hp (e ▸ List.mem_cons_self _ _)
    rw [List.cons_append, List.takeWhile_cons, if_pos (decide_eq_true hy),
      ih fun h => hp (List.mem_cons_of_mem _ h)]

/-- A separator absent from both tails splits two equal lists at their last occurrence. -/
theorem append_cons_inj {x : UInt8} {a b c d : List UInt8} (hc : x ∉ c) (hd : x ∉ d)
    (h : a ++ x :: c = b ++ x :: d) : a = b ∧ c = d := by
  have hr := congrArg (fun l => l.reverse.takeWhile (· ≠ x)) h
  simp only [List.reverse_append, List.reverse_cons, List.append_assoc, List.singleton_append]
    at hr
  rw [takeWhile_append_cons (by simpa using hc), takeWhile_append_cons (by simpa using hd),
    List.reverse_inj] at hr
  subst hr
  exact ⟨List.append_cancel_right h, rfl⟩

/-- The key `queue_item` remembers a deduplicated drop by:
`item_name + "_" + std::to_string(quantity)`. -/
def itemKey (itemName : StdString) (quantity : UInt32) : StdString :=
  itemName ++ 95 :: toStringDec quantity.toNat

/-- Two drops share a key only when they have the same name and quantity. -/
theorem itemKey_inj {a b : StdString} {q r : UInt32} (h : itemKey a q = itemKey b r) :
    a = b ∧ q = r := by
  obtain ⟨hab, hqr⟩ := append_cons_inj (underscore_not_mem_toStringDec _)
    (underscore_not_mem_toStringDec _) h
  refine ⟨hab, UInt32.toNat.inj ?_⟩
  rw [← decValue_toStringDec q.toNat, hqr, decValue_toStringDec]

/-- `item_name == "Crowns" || item_name == "crowns"`. -/
def isCrowns (itemName : StdString) : Bool :=
  itemName = asciiBytes "Crowns" || itemName = asciiBytes "crowns"

/-- A drop `queue_item` looks up by its key: a relic or boss drop that is not crowns. -/
def isDeduplicated (itemName : StdString) (isRelicOrBoss : Bool) : Bool :=
  !isCrowns itemName && isRelicOrBoss

/-! ### The bridge -/

/-- The fields of `W3mInventoryBridge` that `queue_item` and `process_queue` use. -/
structure W3mInventoryBridge where
  outgoingQueue : List W3mLootPacket
  processedItems : Finset StdString

namespace W3mInventoryBridge

/-- The bridge at load time. -/
def empty : W3mInventoryBridge := ⟨[], ∅⟩

/-- The `loot_packet` of `queue_item`, with `utils::identity::get_guid()` and the clock. -/
def lootPacket (guid : UInt64) (itemName : StdString) (quantity : UInt32) (now : UInt64) :
    W3mLootPacket :=
  ⟨copyString (by decide) (CharArray.zero _) itemName, quantity, guid, UInt32.ofNat now.toNat⟩

/-- `queue_item(item_name, quantity, is_relic_or_boss)` at `now`. -/
def queueItem (guid : UInt64) (b : W3mInventoryBridge) (itemName : StdString) (quantity : UInt32)
    (isRelicOrBoss : Bool) (now : UInt64) : W3mInventoryBridge :=
  let push (b : W3mInventoryBridge) : W3mInventoryBridge :=
    { b with outgoingQueue := b.outgoingQueue ++ [lootPacket guid itemName quantity now] }
  if isDeduplicated itemName isRelicOrBoss then
    if itemKey itemName quantity ∈ b.processedItems then b
    else push { b with processedItems := insert (itemKey itemName quantity) b.processedItems }
  else push b

/-- The key set stands for the pairs `seen`. -/
def Represents (b : W3mInventoryBridge) (seen : List (StdString × UInt32)) : Prop :=
  b.processedItems = (seen.map fun p => itemKey p.1 p.2).toFinset

end W3mInventoryBridge

/-- A call of `W3mInventoryBridge_Queue(item_name, quantity, is_relic_or_boss)` at `now`, the
quantity already cast to `uint32_t`. -/
structure Drop where
  itemName : StdString
  quantity : UInt32
  isRelicOrBoss : Bool
  now : UInt64

namespace Drop

/-- Whether the abstract bridge forwards the drop, having forwarded the deduplicated pairs
`seen`. -/
def Forwards (seen : List (StdString × UInt32)) (d : Drop) : Prop :=
  isDeduplicated d.itemName d.isRelicOrBoss = true → (d.itemName, d.quantity) ∉ seen

instance (seen : List (StdString × UInt32)) (d : Drop) : Decidable (d.Forwards seen) :=
  inferInstanceAs (Decidable (_ → _))

/-- The pairs seen after the drop. -/
def see (seen : List (StdString × UInt32)) (d : Drop) : List (StdString × UInt32) :=
  if d.Forwards seen ∧ isDeduplicated d.itemName d.isRelicOrBoss = true then
    (d.itemName, d.quantity) :: seen
  else seen

/-- The packets the abstract bridge forwards for a sequence of drops, in order. -/
def forwarded (guid : UInt64) : List (StdString × UInt32) → List Drop → List W3mLootPacket
  | _, [] => []
  | seen, d :: ds =>
    (if d.Forwards seen then [W3mInventoryBridge.lootPacket guid d.itemName d.quantity d.now]
      else []) ++ forwarded guid (d.see seen) ds

theorem forwarded_append (guid : UInt64) (seen : List (StdString × UInt32))
    (ds ds' : List Drop) :
    forwarded guid seen (ds ++ ds') =
      forwarded guid seen ds ++ forwarded guid (ds.foldl see seen) ds' := by
  induction ds generalizing seen with
  | nil => rfl
  | cons d ds ih =>
    rw [List.cons_append, forwarded, forwarded, ih, List.append_assoc, List.foldl_cons]

end Drop

namespace W3mInventoryBridge

variable {b : W3mInventoryBridge} {seen : List (StdString × UInt32)}

theorem itemKey_mem_iff (h : b.Represents seen) (n : StdString) (q : UInt32) :
    itemKey n q ∈ b.processedItems ↔ (n, q) ∈ seen := by
  rw [h, List.mem_toFinset, List.mem_map]
  constructor
  · rintro ⟨p, hp, he⟩
    obtain ⟨rfl, rfl⟩ := itemKey_inj he
    exact hp
  · exact fun hp => ⟨_, hp, rfl⟩

/-- One `queue_item` call is one step of the abstract bridge: it queues the drop's packet exactly
when the abstract bridge forwards it, and its key set then stands for the pairs seen after it. -/
theorem queueItem_represents (h : b.Represents seen) (guid : UInt64) (d : Drop) :
    let b' := b.queueItem guid d.itemName d.quantity d.isRelicOrBoss d.now
    b'.outgoingQueue = b.outgoingQueue ++
      (if d.Forwards seen then [lootPacket guid d.itemName d.quantity d.now] else []) ∧
    b'.Represents (d.see seen) := by
  have hmem := itemKey_mem_iff h d.itemName d.quantity
  unfold Represents at h
  unfold queueItem Drop.see Drop.Forwards Represents
  by_cases hd : isDeduplicated d.itemName d.isRelicOrBoss = true
  · rw [if_pos hd]
    by_cases hs : (d.itemName, d.quantity) ∈ seen
    · rw [if_pos (hmem.2 hs)]
      simp [hd, hs, h]
    · rw [if_neg (mt hmem.1 hs)]
      simp [hd, hs, h, Finset.insert_eq, Finset.union_comm]
  · rw [if_neg hd]
    simp [hd, h]

end W3mInventoryBridge

end WitcherSeamless
