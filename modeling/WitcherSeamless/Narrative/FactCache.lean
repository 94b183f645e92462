import WitcherSeamless.Narrative.FactManager

/-!
# The fact cache over every run

Every run of `quest_fact_manager` calls (`register_fact`, `clear_cache`, `get_fact`) keeps
`m_fact_cache` within `FACT_CACHE_SIZE_LIMIT`. A `register_fact` that takes the map past the limit
prunes it to exactly 768 entries and erases only entries stamped no later than every entry it
keeps. When the clock has moved on since every earlier registration, the fact just stored is the
newest entry, so it survives and `get_fact` reads it back; every other entry is kept as it was or
erased.

The proofs read `prune_oldest_facts` as a filter: erasing the keys of the first `size - 768` pairs
of the sorted `fact_ages` keeps exactly the entries whose pairs lie in the rest of that list, and
the sort puts every erased pair before every kept one.

## Main results

* `pruneOldestFacts_of_lt`, `length_pruneOldestFacts`: pruning is a filter to 768 entries.
* `timestamp_le_of_not_mem_pruneOldestFacts`, `mem_pruneOldestFacts_of_newest`: it erases the
  oldest entries and never the newest.
* `QuestFactManager.registerFact_contract`: one `register_fact` on a map older than its stamp.
* `QuestFactManager.getFactCount_run_le`, `QuestFactManager.timestamp_mem_run`: the bound and the
  stamps over every run.
* `QuestFactManager.computeWorldStateHash_perm`: the world-state hash ignores the iteration order.

Source: `quest_sync.hpp`, `quest_fact_manager::register_fact`, `get_fact`, `prune_oldest_facts` and
`compute_world_state_hash`.
-/

namespace WitcherSeamless

/-! ### Lookups by key -/

theorem lookup_filter_key (q : UInt32 → Bool) (k : UInt32) (c : List (UInt32 × QuestFact)) :
    (c.filter fun e => q e.1).lookup k = if q k then c.lookup k else none := by
  induction c with
  | nil => simp
  | cons e c ih =>
    obtain ⟨k', v⟩ := e
    by_cases hk : k = k'
    · subst hk
      by_cases hq : q k <;> simp [List.filter_cons, List.lookup_cons, hq, ih]
    · have hb : (k == k') = false := beq_eq_false_iff_ne.2 hk
      by_cases hq : q k' <;> simp [List.filter_cons, List.lookup_cons, hq, ih, hb]

theorem lookup_eq_some_of_mem {c : List (UInt32 × QuestFact)} (hc : (keys c).Nodup) {k : UInt32}
    {v : QuestFact} (h : (k, v) ∈ c) : c.lookup k = some v := by
  induction c with
  | nil => cases h
  | cons e c ih =>
    obtain ⟨k', v'⟩ := e
    simp only [keys, List.map_cons, List.nodup_cons] at hc
    rcases List.mem_cons.1 h with h | h
    · cases h
      simp [List.lookup_cons]
    · have hb : (k == k') = false :=
        beq_eq_false_iff_ne.2 fun hk => hc.1 (hk ▸ List.mem_map_of_mem Prod.fst h)
      simp [List.lookup_cons, hb, ih hc.2 h]

/-! ### Pruning as a filter -/

/-- `fact_ages` of `prune_oldest_facts`: the pairs (hash, timestamp) sorted by timestamp. -/
def factAges (c : List (UInt32 × QuestFact)) : List (UInt32 × UInt64) :=
  (c.map fun e => (e.1, e.2.timestamp)).mergeSort fun a b => a.2 ≤ b.2

/-- The keys `prune_oldest_facts` erases: those of the first `n` pairs of `fact_ages`. -/
def evictedKeys (c : List (UInt32 × QuestFact)) (n : Nat) : List UInt32 :=
  ((factAges c).take n).map Prod.fst

theorem factAges_perm (c : List (UInt32 × QuestFact)) :
    (factAges c).Perm (c.map fun e => (e.1, e.2.timestamp)) :=
  List.mergeSort_perm _ _

theorem factAges_sorted (c : List (UInt32 × QuestFact)) :
    (factAges c).Pairwise fun a b => a.2 ≤ b.2 := by
  have h := @List.sorted_mergeSort _ (fun a b : UInt32 × UInt64 => decide (a.2 ≤ b.2))
    (fun _ _ _ h₁ h₂ => by simp only [decide_eq_true_eq] at *; exact UInt64.le_trans h₁ h₂)
    (fun a b => by simpa using UInt64.le_total a.2 b.2) (c.map fun e => (e.1, e.2.timestamp))
  simpa using h

theorem foldl_eraseKey_eq_filter (ks : List (UInt32 × UInt64)) (c : List (UInt32 × QuestFact)) :
    ks.foldl (fun m a => eraseKey a.1 m) c = c.filter fun e => e.1 ∉ ks.map Prod.fst := by
  induction ks generalizing c with
  | nil => simp
  | cons k ks ih =>
    rw [List.foldl_cons, ih, eraseKey, List.filter_filter]
    congr 1
    funext e
    simp [bne, Bool.and_comm]

theorem pruneOldestFacts_of_lt {c : List (UInt32 × QuestFact)} (h : pruneTarget < c.length) :
    pruneOldestFacts c = c.filter fun e => e.1 ∉ evictedKeys c (c.length - pruneTarget) := by
  rw [pruneOldestFacts, if_neg (Nat.not_le.2 h), foldl_eraseKey_eq_filter]
  rfl

theorem mem_take_or_drop_factAges {c : List (UInt32 × QuestFact)} (n : Nat) {e : UInt32 × QuestFact} (he : e ∈ c) :
    (e.1, e.2.timestamp) ∈ (factAges c).take n ∨ (e.1, e.2.timestamp) ∈ (factAges c).drop n := by
  rw [← List.mem_append, List.take_append_drop]
  exact (factAges_perm c).mem_iff.2 (List.mem_map_of_mem _ he)

section Evicted

variable {c : List (UInt32 × QuestFact)} (hc : (keys c).Nodup)
include hc

theorem not_mem_evictedKeys_of_mem_drop (n : Nat) {a : UInt32 × UInt64}
    (ha : a ∈ (factAges c).drop n) : a.1 ∉ evictedKeys c n := by
  have hnd : (((factAges c).take n).map Prod.fst ++ ((factAges c).drop n).map Prod.fst).Nodup := by
    rw [← List.map_append, List.take_append_drop]
    exact ((factAges_perm c).map Prod.fst).nodup_iff.2 (by simpa [keys, Function.comp_def] using hc)
  exact fun h => List.disjoint_of_nodup_append hnd h (List.mem_map_of_mem _ ha)

/-- The sort puts every evicted pair before every kept one. -/
theorem timestamp_le_of_evicted (n : Nat) {e e' : UInt32 × QuestFact} (he : e ∈ c)
    (hk : e.1 ∈ evictedKeys c n) (he' : e' ∈ c) (hk' : e'.1 ∉ evictedKeys c n) :
    e.2.timestamp ≤ e'.2.timestamp := by
  have hsorted := factAges_sorted c
  rw [← List.take_append_drop n (factAges c), List.pairwise_append] at hsorted
  have htake : (e.1, e.2.timestamp) ∈ (factAges c).take n :=
    (mem_take_or_drop_factAges n he).resolve_right
      fun h => not_mem_evictedKeys_of_mem_drop hc n h hk
  have hdrop : (e'.1, e'.2.timestamp) ∈ (factAges c).drop n :=
    (mem_take_or_drop_factAges n he').resolve_left
      fun h => hk' (List.mem_map_of_mem Prod.fst h)
  exact hsorted.2.2 _ htake _ hdrop

theorem length_filter_not_evicted (n : Nat) :
    (c.filter fun e => e.1 ∉ evictedKeys c n).length = c.length - n := by
  have hfront : ((factAges c).take n).filter (fun a => a.1 ∉ evictedKeys c n) = [] :=
    List.filter_eq_nil_iff.2 fun a ha => by
      simpa only [decide_eq_true_eq, not_not] using List.mem_map_of_mem Prod.fst ha
  have hback : ((factAges c).drop n).filter (fun a => a.1 ∉ evictedKeys c n) = (factAges c).drop n :=
    List.filter_eq_self.2 fun a ha => decide_eq_true (not_mem_evictedKeys_of_mem_drop hc n ha)
  calc (c.filter fun e => e.1 ∉ evictedKeys c n).length
      = ((c.map fun e => (e.1, e.2.timestamp)).filter fun a => a.1 ∉ evictedKeys c n).length := by
        rw [List.filter_map, List.length_map]
        rfl
    _ = ((factAges c).filter fun a => a.1 ∉ evictedKeys c n).length :=
        (((factAges_perm c).filter _).length_eq).symm
    _ = ((factAges c).drop n).length := by
        conv_lhs => rw [← List.take_append_drop n (factAges c)]
        rw [List.filter_append, hfront, hback, List.nil_append]
    _ = c.length - n := by rw [List.length_drop, (factAges_perm c).length_eq, List.length_map]

theorem length_pruneOldestFacts (h : pruneTarget < c.length) :
    (pruneOldestFacts c).length = pruneTarget := by
  rw [pruneOldestFacts_of_lt h, length_filter_not_evicted hc]
  omega

/-- Pruning erases only entries stamped no later than every entry it keeps. -/
theorem timestamp_le_of_not_mem_pruneOldestFacts {e e' : UInt32 × QuestFact} (he : e ∈ c)
    (hk : e.1 ∉ keys (pruneOldestFacts c)) (he' : e' ∈ pruneOldestFacts c) :
    e.2.timestamp ≤ e'.2.timestamp := by
  by_cases h : pruneTarget < c.length
  · rw [pruneOldestFacts_of_lt h] at hk he'
    obtain ⟨he'c, hk'⟩ := List.mem_filter.1 he'
    refine timestamp_le_of_evicted hc _ he (by_contra fun hn => hk ?_) he'c (of_decide_eq_true hk')
    exact List.mem_map_of_mem Prod.fst (List.mem_filter.2 ⟨he, decide_eq_true hn⟩)
  · rw [pruneOldestFacts, if_pos (Nat.not_lt.1 h)] at hk
    exact absurd (List.mem_map_of_mem Prod.fst he) hk

/-- An entry stamped later than every entry of another key survives pruning. -/
theorem mem_pruneOldestFacts_of_newest {e : UInt32 × QuestFact} (he : e ∈ c)
    (hnew : ∀ e' ∈ c, e'.1 ≠ e.1 → e'.2.timestamp < e.2.timestamp) : e ∈ pruneOldestFacts c := by
  by_cases h : pruneTarget < c.length
  · rw [pruneOldestFacts_of_lt h]
    refine List.mem_filter.2 ⟨he, decide_eq_true fun hk => ?_⟩
    have hpos : 0 < (c.filter fun e => e.1 ∉ evictedKeys c (c.length - pruneTarget)).length := by
      rw [length_filter_not_evicted hc]
      unfold pruneTarget at *
      omega
    obtain ⟨e', he'⟩ := List.exists_mem_of_length_pos hpos
    obtain ⟨he'c, hk'⟩ := List.mem_filter.1 he'
    have hne : e'.1 ≠ e.1 := fun h' => of_decide_eq_true hk' (h' ▸ hk)
    have hle := timestamp_le_of_evicted hc _ he hk he'c (of_decide_eq_true hk')
    exact absurd hle (UInt64.not_le.2 (hnew e' he'c hne))
  · rwa [pruneOldestFacts, if_pos (Nat.not_lt.1 h)]

end Evicted

/-! ### The world-state hash -/

/-- The contributions `a ^^^ b` and `c ^^^ d` of two entries to the hash commute. -/
theorem xor_entries_comm (z a b c d : UInt32) :
    z ^^^ a ^^^ b ^^^ c ^^^ d = z ^^^ c ^^^ d ^^^ a ^^^ b := by
  apply UInt32.eq_of_toBitVec_eq
  show z.toBitVec ^^^ a.toBitVec ^^^ b.toBitVec ^^^ c.toBitVec ^^^ d.toBitVec =
    z.toBitVec ^^^ c.toBitVec ^^^ d.toBitVec ^^^ a.toBitVec ^^^ b.toBitVec
  ac_rfl

/-- `compute_world_state_hash` does not depend on the order in which the map is iterated, which
C++ leaves unspecified: any order of the same entries gives the same hash. -/
theorem QuestFactManager.computeWorldStateHash_perm {m m' : QuestFactManager}
    (h : m.factCache.Perm m'.factCache) : m.computeWorldStateHash = m'.computeWorldStateHash :=
  h.foldl_eq' (fun _ _ _ _ _ => xor_entries_comm _ _ _ _ _) 0

/-- The facts `a = 1` and `b = 2`, under the hashes `1` and `2`. -/
def twoFactCache : List (UInt32 × QuestFact) :=
  [(1, ⟨[97], 1, 0, 0, 1⟩), (2, ⟨[98], 2, 0, 0, 2⟩)]

/-- The two facts iterated in either order give one hash. -/
theorem world_hash_of_swapped_facts :
    (⟨twoFactCache, by decide⟩ : QuestFactManager).factCache.Perm
        (⟨twoFactCache.reverse, by decide⟩ : QuestFactManager).factCache ∧
      QuestFactManager.computeWorldStateHash ⟨twoFactCache, by decide⟩ =
        QuestFactManager.computeWorldStateHash ⟨twoFactCache.reverse, by decide⟩ :=
  ⟨(List.reverse_perm _).symm,
    QuestFactManager.computeWorldStateHash_perm (List.reverse_perm twoFactCache).symm⟩

/-! ### One `register_fact` -/

namespace QuestFactManager

variable (stdHash : StdString → UInt64)

/-- The entry `register_fact(fact_name, value, player_guid)` stores at `now`. -/
def registeredFact (factName : StdString) (value : BitVec 32) (playerGuid now : UInt64) :
    QuestFact :=
  ⟨factName, value, now, playerGuid, computeFactHash stdHash factName⟩

/-- The entries right after `m_fact_cache[fact_hash] = fact`, before any pruning. -/
def assignedCache (m : QuestFactManager) (factName : StdString) (value : BitVec 32)
    (playerGuid now : UInt64) : List (UInt32 × QuestFact) :=
  insertOrAssign (computeFactHash stdHash factName)
    (registeredFact stdHash factName value playerGuid now) m.factCache

section RegisterFact

variable (m : QuestFactManager) (factName : StdString) (value : BitVec 32) (playerGuid now : UInt64)

theorem registeredCache_eq : registeredCache stdHash m factName value playerGuid now =
    if factCacheSizeLimit < (assignedCache stdHash m factName value playerGuid now).length then
      pruneOldestFacts (assignedCache stdHash m factName value playerGuid now)
    else assignedCache stdHash m factName value playerGuid now :=
  rfl

@[simp]
theorem mem_assignedCache {e : UInt32 × QuestFact} :
    e ∈ assignedCache stdHash m factName value playerGuid now ↔
      (e ∈ m.factCache ∧ e.1 ≠ computeFactHash stdHash factName) ∨
        e = (computeFactHash stdHash factName, registeredFact stdHash factName value playerGuid now) := by
  simp [assignedCache, insertOrAssign, eraseKey]

theorem nodup_keys_assignedCache : (keys (assignedCache stdHash m factName value playerGuid now)).Nodup :=
  nodup_keys_insertOrAssign _ _ m.nodup_keys

theorem lookup_assignedCache {k : UInt32} (hk : k ≠ computeFactHash stdHash factName) :
    (assignedCache stdHash m factName value playerGuid now).lookup k = m.factCache.lookup k := by
  simp [assignedCache, insertOrAssign, eraseKey, List.lookup_append,
    lookup_filter_key (· != computeFactHash stdHash factName), hk, List.lookup_cons,
    beq_eq_false_iff_ne.2 hk]

theorem registeredCache_sublist : (registeredCache stdHash m factName value playerGuid now).Sublist
    (assignedCache stdHash m factName value playerGuid now) := by
  rw [registeredCache_eq]
  split_ifs
  · exact pruneOldestFacts_sublist _
  · exact List.Sublist.refl _

/-- `register_fact` never leaves more than `FACT_CACHE_SIZE_LIMIT` entries, whatever the map. -/
theorem getFactCount_registerFact_le :
    (m.registerFact stdHash factName value playerGuid now).getFactCount ≤ factCacheSizeLimit := by
  show (registeredCache stdHash m factName value playerGuid now).length ≤ _
  rw [registeredCache_eq]
  split_ifs with h
  · rw [length_pruneOldestFacts (nodup_keys_assignedCache stdHash m factName value playerGuid now)
      (by unfold factCacheSizeLimit pruneTarget at *; omega)]
    decide
  · omega

theorem getFactCount_registerFact_of_lt
    (h : factCacheSizeLimit < (assignedCache stdHash m factName value playerGuid now).length) :
    (m.registerFact stdHash factName value playerGuid now).getFactCount = pruneTarget := by
  show (registeredCache stdHash m factName value playerGuid now).length = _
  rw [registeredCache_eq, if_pos h]
  exact length_pruneOldestFacts (nodup_keys_assignedCache stdHash m factName value playerGuid now)
    (by unfold factCacheSizeLimit pruneTarget at *; omega)

/-- Every other key keeps its entry, or loses it to pruning. -/
theorem getFactByHash_registerFact_of_ne {k : UInt32} (hk : k ≠ computeFactHash stdHash factName) :
    (m.registerFact stdHash factName value playerGuid now).getFactByHash k = m.getFactByHash k ∨
      (m.registerFact stdHash factName value playerGuid now).getFactByHash k = none := by
  show (registeredCache stdHash m factName value playerGuid now).lookup k = m.factCache.lookup k ∨
    (registeredCache stdHash m factName value playerGuid now).lookup k = none
  rw [registeredCache_eq]
  split_ifs with h
  · rw [pruneOldestFacts_of_lt (by unfold factCacheSizeLimit pruneTarget at *; omega),
      lookup_filter_key (fun k => decide (k ∉ _)), lookup_assignedCache stdHash m factName value
        playerGuid now hk]
    split_ifs
    · exact Or.inl rfl
    · exact Or.inr rfl
  · exact Or.inl (lookup_assignedCache stdHash m factName value playerGuid now hk)

section Newer

variable {m} (hnew : ∀ e ∈ m.factCache, e.2.timestamp < now)
include hnew

/-- A fact stamped later than every cached entry is kept. -/
theorem registered_mem_registeredCache :
    (computeFactHash stdHash factName, registeredFact stdHash factName value playerGuid now) ∈
      registeredCache stdHash m factName value playerGuid now := by
  have hmem := (mem_assignedCache stdHash m factName value playerGuid now).2 (Or.inr rfl)
  rw [registeredCache_eq]
  split_ifs
  · refine mem_pruneOldestFacts_of_newest (nodup_keys_assignedCache stdHash m factName value
      playerGuid now) hmem fun e' he' hne => ?_
    rcases (mem_assignedCache stdHash m factName value playerGuid now).1 he' with ⟨he'm, _⟩ | rfl
    · exact hnew e' he'm
    · exact absurd rfl hne
  · exact hmem

theorem getFact_registerFact :
    (m.registerFact stdHash factName value playerGuid now).getFact stdHash factName =
      some (registeredFact stdHash factName value playerGuid now) :=
  lookup_eq_some_of_mem (m.registerFact stdHash factName value playerGuid now).nodup_keys
    (registered_mem_registeredCache stdHash factName value playerGuid now hnew)

/-- An entry of the map whose key `register_fact` erases is no newer than any entry it keeps. -/
theorem timestamp_le_of_evicted_registerFact {e : UInt32 × QuestFact} (he : e ∈ m.factCache)
    (hk : e.1 ∉ keys (m.registerFact stdHash factName value playerGuid now).factCache)
    {e' : UInt32 × QuestFact} (he' : e' ∈ (m.registerFact stdHash factName value playerGuid now).factCache) :
    e.2.timestamp ≤ e'.2.timestamp := by
  have hne : e.1 ≠ computeFactHash stdHash factName := fun h => hk (h ▸ List.mem_map_of_mem Prod.fst
    (registered_mem_registeredCache stdHash factName value playerGuid now hnew))
  have heA := (mem_assignedCache stdHash m factName value playerGuid now).2 (Or.inl ⟨he, hne⟩)
  change e.1 ∉ keys (registeredCache stdHash m factName value playerGuid now) at hk
  change e' ∈ registeredCache stdHash m factName value playerGuid now at he'
  rw [registeredCache_eq] at hk he'
  split_ifs at hk he'
  · exact timestamp_le_of_not_mem_pruneOldestFacts
      (nodup_keys_assignedCache stdHash m factName value playerGuid now) heA hk he'
  · exact absurd (List.mem_map_of_mem Prod.fst heA) hk

end Newer

end RegisterFact

/-- What `register_fact(fact_name, value, player_guid)` at `now` does to the manager `m`: the map
stays within the limit, one that reaches 1025 entries is pruned to exactly 768, only entries no
newer than every kept entry are erased, `get_fact(fact_name)` reads the new fact back, and every
other key keeps its entry unless pruning erases it. -/
structure RegisterFactContract (m : QuestFactManager) (factName : StdString) (value : BitVec 32)
    (playerGuid now : UInt64) : Prop where
  bounded : (m.registerFact stdHash factName value playerGuid now).getFactCount ≤ factCacheSizeLimit
  pruned_to_target : (assignedCache stdHash m factName value playerGuid now).length =
      factCacheSizeLimit + 1 →
    (m.registerFact stdHash factName value playerGuid now).getFactCount = pruneTarget
  evicts_oldest : ∀ e ∈ m.factCache,
    e.1 ∉ keys (m.registerFact stdHash factName value playerGuid now).factCache →
    ∀ e' ∈ (m.registerFact stdHash factName value playerGuid now).factCache,
      e.2.timestamp ≤ e'.2.timestamp
  reads_back : (m.registerFact stdHash factName value playerGuid now).getFact stdHash factName =
    some (registeredFact stdHash factName value playerGuid now)
  others_kept_or_evicted : ∀ k, k ≠ computeFactHash stdHash factName →
    (m.registerFact stdHash factName value playerGuid now).getFactByHash k = m.getFactByHash k ∨
      (m.registerFact stdHash factName value playerGuid now).getFactByHash k = none

theorem registerFact_contract {m : QuestFactManager} (factName : StdString) (value : BitVec 32)
    (playerGuid now : UInt64) (hnew : ∀ e ∈ m.factCache, e.2.timestamp < now) :
    RegisterFactContract stdHash m factName value playerGuid now where
  bounded := getFactCount_registerFact_le stdHash m factName value playerGuid now
  pruned_to_target h := getFactCount_registerFact_of_lt stdHash m factName value playerGuid now
    (by rw [h]; exact Nat.lt_succ_self _)
  evicts_oldest _ he hk _ he' :=
    timestamp_le_of_evicted_registerFact stdHash factName value playerGuid now hnew he hk he'
  reads_back := getFact_registerFact stdHash factName value playerGuid now hnew
  others_kept_or_evicted _ hk := getFactByHash_registerFact_of_ne stdHash m factName value playerGuid now hk

end QuestFactManager

/-! ### Runs -/

/-- The public calls of a `quest_fact_manager`, `register_fact` with the clock reading it stamps. -/
inductive FactManagerCall
  /-- `register_fact(fact_name, value, player_guid)` at `now`. -/
  | registerFact (factName : StdString) (value : BitVec 32) (playerGuid now : UInt64)
  /-- `clear_cache()`. -/
  | clearCache
  /-- `get_fact(fact_name)`. -/
  | getFact (factName : StdString)

/-- The clock reading a call stamps into the map. -/
def FactManagerCall.stamp : FactManagerCall → Option UInt64
  | .registerFact _ _ _ now => some now
  | _ => none

namespace QuestFactManager

variable (stdHash : StdString → UInt64)

/-- One call; `get_fact` leaves the manager as it is. -/
def step (m : QuestFactManager) : FactManagerCall → QuestFactManager
  | .registerFact factName value playerGuid now => m.registerFact stdHash factName value playerGuid now
  | .clearCache => m.clearCache
  | .getFact _ => m

/-- A sequence of calls. -/
def run (m : QuestFactManager) (calls : List FactManagerCall) : QuestFactManager :=
  calls.foldl (step stdHash) m

theorem getFactCount_step_le {m : QuestFactManager} (hm : m.getFactCount ≤ factCacheSizeLimit)
    (call : FactManagerCall) : (m.step stdHash call).getFactCount ≤ factCacheSizeLimit := by
  cases call with
  | registerFact factName value playerGuid now =>
    exact getFactCount_registerFact_le stdHash m factName value playerGuid now
  | clearCache => exact Nat.zero_le _
  | getFact _ => exact hm

theorem getFactCount_run_le {m : QuestFactManager} (hm : m.getFactCount ≤ factCacheSizeLimit)
    (calls : List FactManagerCall) : (m.run stdHash calls).getFactCount ≤ factCacheSizeLimit := by
  induction calls generalizing m with
  | nil => exact hm
  | cons call calls ih => exact ih (getFactCount_step_le stdHash hm call)

/-- Every entry a call leaves was there before, or carries the call's stamp. -/
theorem mem_or_stamp_of_mem_step (m : QuestFactManager) (call : FactManagerCall)
    {e : UInt32 × QuestFact} (he : e ∈ (m.step stdHash call).factCache) :
    e ∈ m.factCache ∨ call.stamp = some e.2.timestamp := by
  cases call with
  | registerFact factName value playerGuid now =>
    rcases (mem_assignedCache stdHash m factName value playerGuid now).1
      ((registeredCache_sublist stdHash m factName value playerGuid now).subset he) with ⟨h, _⟩ | rfl
    · exact Or.inl h
    · exact Or.inr rfl
  | clearCache => cases he
  | getFact _ => exact Or.inl he

/-- Every entry a run leaves was there before, or carries the stamp of one of its calls. -/
theorem timestamp_mem_run (m : QuestFactManager) (calls : List FactManagerCall)
    {e : UInt32 × QuestFact} (he : e ∈ (m.run stdHash calls).factCache) :
    e ∈ m.factCache ∨ e.2.timestamp ∈ calls.filterMap FactManagerCall.stamp := by
  induction calls generalizing m with
  | nil => exact Or.inl he
  | cons call calls ih =>
    rcases ih (m.step stdHash call) he with h | h
    · rcases mem_or_stamp_of_mem_step stdHash m call h with h | h
      · exact Or.inl h
      · exact Or.inr (by simp [List.filterMap_cons, h])
    · right
      cases hs : call.stamp <;> simp [List.filterMap_cons, hs, h]

/-- From a new manager, under any calls whose stamps all precede `now`, the map stays within the
limit and a `register_fact` at `now` keeps its contract. -/
theorem register_fact_prunes_oldest (calls : List FactManagerCall) (factName : StdString)
    (value : BitVec 32) (playerGuid now : UInt64)
    (hnow : ∀ t ∈ calls.filterMap FactManagerCall.stamp, t < now) :
    (empty.run stdHash calls).getFactCount ≤ factCacheSizeLimit ∧
      RegisterFactContract stdHash (empty.run stdHash calls) factName value playerGuid now := by
  have hnew : ∀ e ∈ (empty.run stdHash calls).factCache, e.2.timestamp < now := fun e he =>
    (timestamp_mem_run stdHash empty calls he).elim (fun h => (List.not_mem_nil e h).elim) (hnow _)
  exact ⟨getFactCount_run_le stdHash (Nat.zero_le _) calls,
    registerFact_contract stdHash factName value playerGuid now hnew⟩

theorem register_fact_prunes_oldest_second_call :
    (∀ t ∈ [FactManagerCall.registerFact [97] 1 7 5].filterMap FactManagerCall.stamp, t < 6) ∧
      (empty.run (fun _ => 0) [.registerFact [97] 1 7 5]).getFactCount ≤ factCacheSizeLimit ∧
      RegisterFactContract (fun _ => 0) (empty.run (fun _ => 0) [.registerFact [97] 1 7 5]) [98] 2 7 6 :=
  ⟨by decide, register_fact_prunes_oldest _ _ _ _ _ _ (by decide)⟩

end QuestFactManager

end WitcherSeamless
