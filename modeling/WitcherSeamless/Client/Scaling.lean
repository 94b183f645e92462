import Mathlib.Algebra.Order.Ring.Rat
import Mathlib.Data.List.Nodup

/-!
# The NPC scaling cache

`scaling_manager.cpp` keeps the party size, `g_current_party_count`, and a map from an NPC's guid
to the scaling configuration created for it, `g_npc_scaling_cache`. `set_party_count` clamps the
size to at least `1` and empties the map when the size changes; `apply_npc_scaling` does nothing
for a null NPC or a party of one, and otherwise creates the configuration of an NPC not in the
map yet with `scaling_manager::create_config(party_count, is_boss)` and stores it;
`W3mClearScalingCache` empties the map. A configuration records the party size and the boss flag
it was made for, with the health multiplier `1 + (n - 1) * 0.5` and, for a boss, the damage
multiplier `1 + (n - 1) * 0.2` of a party of `n > 1`, `1` otherwise (`scaling_manager.hpp`). The
scripts reach these through the functions the component registers; `W3mApplyPartyScaling` and
`W3mGetPartyCount` only log or read, and `W3mCalculateHealthMultiplier` and
`W3mCalculateDamageMultiplier` are `calculateHealthMultiplier` and `calculateDamageMultiplier`.

All the callers are script functions, run one at a time, so the read of the party size outside
the lock in `apply_npc_scaling` sees the size of the last `W3mSetPartyCount`.

Over every run from load, the party size is at least `1`, each NPC is in the map at most once,
the map is empty for a party of one, and every configuration in it is the one `create_config`
makes for the current party size and the NPC's boss flag (`scaling_cache_matches_party_size`): a
cached configuration is never one of an earlier party size.

## Main definitions

* `ScalingConfig`, `calculateHealthMultiplier`, `calculateDamageMultiplier`, `createConfig`.
* `ScalingManager` with `setPartyCount`, `applyNpcScaling`, `clearScalingCache`.
* `ScalingCall`, `ScalingManager.step`, `ScalingManager.run`.
* `ScalingInv`: the invariant.

Source: `src/src/client/module/scaling_manager.cpp`, and `scaling_manager` in
`src/unnamed/part_011` (`scaling_manager.hpp`). Multipliers are exact rationals.
-/

namespace WitcherSeamless

/-- `HEALTH_MULTIPLIER_PER_PLAYER`. -/
def healthMultiplierPerPlayer : ℚ := 1 / 2

/-- `BOSS_DAMAGE_BONUS_PER_PLAYER`. -/
def bossDamageBonusPerPlayer : ℚ := 1 / 5

/-- `scaling::scaling_config`. -/
structure ScalingConfig where
  healthMultiplier : ℚ
  damageMultiplier : ℚ
  isBoss : Bool
  partyCount : ℤ
  deriving DecidableEq

/-- `scaling_manager::calculate_health_multiplier(party_count)`. -/
def calculateHealthMultiplier (partyCount : ℤ) : ℚ :=
  if partyCount ≤ 1 then 1 else 1 + ((partyCount - 1 : ℤ) : ℚ) * healthMultiplierPerPlayer

/-- `scaling_manager::calculate_damage_multiplier(party_count, is_boss)`. -/
def calculateDamageMultiplier (partyCount : ℤ) (isBoss : Bool) : ℚ :=
  if partyCount ≤ 1 ∨ !isBoss then 1
  else 1 + ((partyCount - 1 : ℤ) : ℚ) * bossDamageBonusPerPlayer

/-- `scaling_manager::create_config(party_count, is_boss)`. -/
def createConfig (partyCount : ℤ) (isBoss : Bool) : ScalingConfig :=
  ⟨calculateHealthMultiplier partyCount, calculateDamageMultiplier partyCount isBoss, isBoss,
    partyCount⟩

/-- `g_current_party_count` and `g_npc_scaling_cache`, the map as the list of its entries. -/
structure ScalingManager where
  currentPartyCount : ℤ
  npcScalingCache : List (UInt64 × ScalingConfig)

/-- A script call of the scaling manager that changes its state. -/
inductive ScalingCall
  /-- `W3mSetPartyCount(party_count)`. -/
  | setPartyCount (partyCount : ℤ)
  /-- `W3mApplyScalingToNPC(npc_ptr, npc_guid, is_boss)`, with whether `npc_ptr` is not null. -/
  | applyScalingToNpc (npcPtr : Bool) (npcGuid : UInt64) (isBoss : Bool)
  /-- `W3mClearScalingCache()`. -/
  | clearScalingCache

namespace ScalingManager

/-- The state at load time: a party of one, an empty map. -/
def init : ScalingManager := ⟨1, []⟩

/-- `set_party_count(party_count)`. -/
def setPartyCount (s : ScalingManager) (partyCount : ℤ) : ScalingManager :=
  let partyCount := if partyCount < 1 then 1 else partyCount
  let s' := { s with currentPartyCount := partyCount }
  if s.currentPartyCount ≠ partyCount then { s' with npcScalingCache := [] } else s'

/-- `apply_npc_scaling(npc_ptr, npc_guid, is_boss)`, with whether `npc_ptr` is not null. -/
def applyNpcScaling (s : ScalingManager) (npcPtr : Bool) (npcGuid : UInt64)
    (isBoss : Bool) : ScalingManager :=
  if !npcPtr then s
  else
    let partyCount := s.currentPartyCount
    if partyCount ≤ 1 then s
    else if npcGuid ∈ s.npcScalingCache.map Prod.fst then s
    else { s with
      npcScalingCache := s.npcScalingCache ++ [(npcGuid, createConfig partyCount isBoss)] }

/-- `W3mClearScalingCache()`. -/
def clearScalingCache (s : ScalingManager) : ScalingManager :=
  { s with npcScalingCache := [] }

/-- One script call. -/
def step (s : ScalingManager) : ScalingCall → ScalingManager
  | .setPartyCount n => s.setPartyCount n
  | .applyScalingToNpc p g b => s.applyNpcScaling p g b
  | .clearScalingCache => s.clearScalingCache

/-- Script calls one after the other. -/
def run (s : ScalingManager) (calls : List ScalingCall) : ScalingManager :=
  calls.foldl step s

end ScalingManager

/-- What holds of the scaling state between script calls. -/
structure ScalingInv (s : ScalingManager) : Prop where
  /-- The party size is at least `1`. -/
  one_le : 1 ≤ s.currentPartyCount
  /-- Each NPC is in the map at most once. -/
  nodup : (s.npcScalingCache.map Prod.fst).Nodup
  /-- The map is empty for a party of one. -/
  solo_empty : s.currentPartyCount = 1 → s.npcScalingCache = []
  /-- Every configuration in the map is the one made for the current party size. -/
  current : ∀ e ∈ s.npcScalingCache, e.2 = createConfig s.currentPartyCount e.2.isBoss

namespace ScalingInv

variable {s : ScalingManager}

theorem init : ScalingInv ScalingManager.init where
  one_le := Int.le_refl _
  nodup := List.nodup_nil
  solo_empty _ := rfl
  current _ h := absurd h (List.not_mem_nil _)

/-- An empty map at a party size of at least `1`. -/
theorem of_empty {n : ℤ} (hn : 1 ≤ n) : ScalingInv ⟨n, []⟩ where
  one_le := hn
  nodup := List.nodup_nil
  solo_empty _ := rfl
  current _ h := absurd h (List.not_mem_nil _)

theorem setPartyCount (h : ScalingInv s) (n : ℤ) :
    ScalingInv (s.setPartyCount n) := by
  unfold ScalingManager.setPartyCount
  dsimp only
  have hm : 1 ≤ (if n < 1 then 1 else n) := by split_ifs <;> omega
  generalize (if n < 1 then 1 else n) = m at hm ⊢
  by_cases hc : s.currentPartyCount = m
  · rw [if_neg (not_not.2 hc), ← hc]
    exact h
  · rw [if_pos hc]
    exact of_empty hm

theorem applyNpcScaling (h : ScalingInv s) (npcPtr : Bool) (npcGuid : UInt64)
    (isBoss : Bool) : ScalingInv (s.applyNpcScaling npcPtr npcGuid isBoss) := by
  unfold ScalingManager.applyNpcScaling
  dsimp only
  split_ifs with hp hs hg
  · exact h
  · exact h
  · exact h
  · refine ⟨h.one_le, ?_, fun h1 => absurd h1.le hs, ?_⟩
    · rw [List.map_append, List.nodup_append]
      exact ⟨h.nodup, List.nodup_singleton _, by simpa using hg⟩
    · intro e he
      rcases List.mem_append.1 he with he | he
      · exact h.current e he
      · rw [List.mem_singleton.1 he]
        rfl

theorem step (h : ScalingInv s) (c : ScalingCall) :
    ScalingInv (s.step c) := by
  cases c with
  | setPartyCount n => exact h.setPartyCount n
  | applyScalingToNpc p g b => exact h.applyNpcScaling p g b
  | clearScalingCache => exact of_empty h.one_le

theorem run (h : ScalingInv s) (calls : List ScalingCall) :
    ScalingInv (s.run calls) := by
  induction calls generalizing s with
  | nil => exact h
  | cons c cs ih => exact ih (h.step c)

end ScalingInv

/-- Over every run of script calls from load, the party size is at least `1`, each NPC is in the
map at most once, the map is empty for a party of one, and every cached configuration is the one
`create_config` makes for the current party size and the NPC's boss flag. -/
theorem scaling_cache_matches_party_size (calls : List ScalingCall) :
    ScalingInv (ScalingManager.init.run calls) :=
  ScalingInv.init.run calls

end WitcherSeamless
