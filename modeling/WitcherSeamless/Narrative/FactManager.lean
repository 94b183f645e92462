import WitcherSeamless.Wire.Bytes
import Mathlib.Data.List.Sort

/-!
# The quest fact manager

`quest_sync::quest_fact_manager` keeps the synchronized world facts in `m_fact_cache`, an
`std::unordered_map<uint32_t, quest_fact>` keyed by `compute_fact_hash(fact_name)`, the
standard library's string hash cut to 32 bits. `register_fact` stores or overwrites the entry of
a name's hash, stamped with the clock, and prunes the cache down to 768 entries, oldest stamps
first, once it holds more than `FACT_CACHE_SIZE_LIMIT = 1024`.

The map is a list of entries with distinct keys (`QuestFactManager.nodup_keys`). Its iteration
order is unspecified in C++; the model keeps entries in the order they were last assigned, and the
only place an order shows is among equal stamps in `prune_oldest_facts`, whose `std::sort` is
modelled by the stable `List.mergeSort`. `std::hash<std::string>` differs between standard
libraries, so every operation takes it as the parameter `stdHash`; the clock reading that
`register_fact` stamps is the parameter `now`.

## Main definitions

* `QuestFact`, `QuestFactManager`.
* `QuestFactManager.registerFact`, `getFact`, `hasFact`, `clearCache`, `getFactCount`,
  `computeWorldStateHash`, and the helper `pruneOldestFacts`.

Source: `quest_sync.hpp`, `class quest_fact_manager`.
-/

namespace WitcherSeamless

/-- `quest_sync::quest_fact`. -/
structure QuestFact where
  factName : StdString
  value : BitVec 32
  timestamp : UInt64
  playerGuid : UInt64
  factHash : UInt32
  deriving DecidableEq

/-- `FACT_CACHE_SIZE_LIMIT`. -/
def factCacheSizeLimit : Nat := 1024

/-- `FACT_CACHE_SIZE_LIMIT * 0.75`, which is exact in `double`: the size pruning goes down to. -/
def pruneTarget : Nat := 768

/-- `quest_fact_manager::compute_fact_hash`: `std::hash<std::string>` cut to `uint32_t`. -/
def computeFactHash (stdHash : StdString → UInt64) (factName : StdString) : UInt32 :=
  (stdHash factName).toUInt32

/-! ### Entries of the map -/

/-- The keys of a list of entries. -/
def keys (c : List (UInt32 × QuestFact)) : List UInt32 := c.map Prod.fst

/-- `m_fact_cache.erase(h)`. -/
def eraseKey (h : UInt32) (c : List (UInt32 × QuestFact)) : List (UInt32 × QuestFact) :=
  c.filter (fun e => e.1 != h)

/-- `m_fact_cache[h] = fact`: the entry of `h` is replaced, or added when there is none. -/
def insertOrAssign (h : UInt32) (fact : QuestFact) (c : List (UInt32 × QuestFact)) :
    List (UInt32 × QuestFact) :=
  eraseKey h c ++ [(h, fact)]

theorem eraseKey_sublist (h : UInt32) (c : List (UInt32 × QuestFact)) : (eraseKey h c).Sublist c :=
  List.filter_sublist c

theorem not_mem_keys_eraseKey (h : UInt32) (c : List (UInt32 × QuestFact)) :
    h ∉ keys (eraseKey h c) := by
  simp [keys, eraseKey]

theorem Nodup.keys_sublist {c c' : List (UInt32 × QuestFact)} (hs : c'.Sublist c)
    (hc : (keys c).Nodup) : (keys c').Nodup :=
  hc.sublist (hs.map _)

theorem nodup_keys_insertOrAssign (h : UInt32) (fact : QuestFact) {c : List (UInt32 × QuestFact)}
    (hc : (keys c).Nodup) : (keys (insertOrAssign h fact c)).Nodup := by
  have herase := Nodup.keys_sublist (eraseKey_sublist h c) hc
  have hnot := not_mem_keys_eraseKey h c
  simp only [insertOrAssign, keys, List.map_append, List.map_cons, List.map_nil] at herase hnot ⊢
  exact List.nodup_append.2 ⟨herase, List.nodup_singleton h, by simpa using hnot⟩

/-! ### Pruning -/

/-- `prune_oldest_facts`: unless the map is already at most 768 entries, sort the pairs
(hash, timestamp) by timestamp and erase the first `size - 768` keys. -/
def pruneOldestFacts (c : List (UInt32 × QuestFact)) : List (UInt32 × QuestFact) :=
  if c.length ≤ pruneTarget then c
  else
    let factAges := (c.map fun e => (e.1, e.2.timestamp)).mergeSort fun a b => a.2 ≤ b.2
    (factAges.take (c.length - pruneTarget)).foldl (fun m a => eraseKey a.1 m) c

theorem foldl_eraseKey_sublist (ks : List (UInt32 × UInt64)) (c : List (UInt32 × QuestFact)) :
    (ks.foldl (fun m a => eraseKey a.1 m) c).Sublist c := by
  induction ks generalizing c with
  | nil => exact List.Sublist.refl c
  | cons k ks ih => exact (ih _).trans (eraseKey_sublist _ _)

theorem pruneOldestFacts_sublist (c : List (UInt32 × QuestFact)) : (pruneOldestFacts c).Sublist c := by
  unfold pruneOldestFacts
  split_ifs
  · exact List.Sublist.refl c
  · exact foldl_eraseKey_sublist _ _

/-! ### The manager -/

/-- `quest_sync::quest_fact_manager`: its `m_fact_cache`, whose keys are distinct. -/
structure QuestFactManager where
  factCache : List (UInt32 × QuestFact)
  nodup_keys : (keys factCache).Nodup
  deriving DecidableEq

namespace QuestFactManager

variable (stdHash : StdString → UInt64)

/-- A default-constructed manager, and the manager after `clear_cache`. -/
def empty : QuestFactManager := ⟨[], List.nodup_nil⟩

/-- `clear_cache`. -/
def clearCache (_ : QuestFactManager) : QuestFactManager := empty

/-- The entries after `m_fact_cache[fact_hash] = fact` and the pruning it may trigger. -/
def registeredCache (m : QuestFactManager) (factName : StdString) (value : BitVec 32)
    (playerGuid now : UInt64) : List (UInt32 × QuestFact) :=
  let factHash := computeFactHash stdHash factName
  let c := insertOrAssign factHash ⟨factName, value, now, playerGuid, factHash⟩ m.factCache
  if c.length > factCacheSizeLimit then pruneOldestFacts c else c

theorem nodup_keys_registeredCache (m : QuestFactManager) (factName : StdString)
    (value : BitVec 32) (playerGuid now : UInt64) :
    (keys (registeredCache stdHash m factName value playerGuid now)).Nodup := by
  have h := nodup_keys_insertOrAssign (computeFactHash stdHash factName)
    ⟨factName, value, now, playerGuid, computeFactHash stdHash factName⟩ m.nodup_keys
  unfold registeredCache
  dsimp only
  split_ifs
  · exact Nodup.keys_sublist (pruneOldestFacts_sublist _) h
  · exact h

/-- `register_fact(fact_name, value, player_guid)`, with `now` the clock reading it stamps. -/
def registerFact (m : QuestFactManager) (factName : StdString) (value : BitVec 32)
    (playerGuid now : UInt64) : QuestFactManager :=
  ⟨registeredCache stdHash m factName value playerGuid now,
    nodup_keys_registeredCache stdHash m factName value playerGuid now⟩

/-- `get_fact(uint32_t fact_hash)`. -/
def getFactByHash (m : QuestFactManager) (factHash : UInt32) : Option QuestFact :=
  m.factCache.lookup factHash

/-- `get_fact(const std::string& fact_name)`. -/
def getFact (m : QuestFactManager) (factName : StdString) : Option QuestFact :=
  m.getFactByHash (computeFactHash stdHash factName)

/-- `has_fact(const std::string& fact_name)`. -/
def hasFact (m : QuestFactManager) (factName : StdString) : Bool :=
  (m.getFact stdHash factName).isSome

/-- `get_fact_count`. -/
def getFactCount (m : QuestFactManager) : Nat := m.factCache.length

/-- `compute_world_state_hash`: the XOR of every entry's hash and value. -/
def computeWorldStateHash (m : QuestFactManager) : UInt32 :=
  m.factCache.foldl (fun acc e => acc ^^^ e.1 ^^^ UInt32.ofNat e.2.value.toNat) 0

end QuestFactManager

end WitcherSeamless
