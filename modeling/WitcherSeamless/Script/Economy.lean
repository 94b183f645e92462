import Mathlib.Algebra.Order.Group.Int
import Mathlib.Algebra.Order.Group.Abs

/-!
# Crown reconciliation

The heartbeat hands each client the host's crown total, and `W3mReconcileCrowns` brings the local
player's crowns to it: it reads the count with `GetItemQuantityByName('Crowns')`, and adds the
difference with `AddAnItem` or removes it with `RemoveItemByName`. The three script versions
differ: in `w3mp_final.ws` and `w3mp_refactored.ws` the body is the same and reconciles every
non-zero difference (`reconcileOnAnyDiff_eq`), while `w3mp.ws` only reconciles a difference of
more than 10 crowns (`W3mp.w3mReconcileCrowns_eq`). They disagree exactly on differences of 1 to 10
crowns (`reconcileOnAnyDiff_eq_w3mp_iff`); `crowns_reconciled_below_threshold` is the spec's own
case, 100 local crowns against 95.

The inventory's crown count is an integer, `none` when `thePlayer` or its inventory is missing;
the engine's `AddAnItem('Crowns', n)` and `RemoveItemByName('Crowns', n)` are not among the
sources and are modelled as adding and removing `n` crowns.

Source: `src/data/scripts/local/w3mp_final.ws`, `w3mp_refactored.ws` and `w3mp.ws`,
`W3mReconcileCrowns`.
-/

namespace WitcherSeamless

/-- `thePlayer.inv.AddAnItem('Crowns', n)` on the crown count. -/
def addCrowns (crowns n : ℤ) : ℤ := crowns + n

/-- `thePlayer.inv.RemoveItemByName('Crowns', n)` on the crown count. -/
def removeCrowns (crowns n : ℤ) : ℤ := crowns - n

/-- The body of `W3mReconcileCrowns` in `w3mp_final.ws` and `w3mp_refactored.ws`: return when
there is no player inventory, otherwise add a positive difference and remove a negative one. -/
def reconcileOnAnyDiff (remoteCrowns : ℤ) (inv : Option ℤ) : Option ℤ :=
  inv.map fun localCrowns =>
    let diff := remoteCrowns - localCrowns
    if diff ≠ 0 then
      if diff > 0 then addCrowns localCrowns diff else removeCrowns localCrowns |diff|
    else localCrowns

namespace W3mpFinal

/-- `W3mReconcileCrowns(remoteCrowns, remoteGuid)` of `w3mp_final.ws`; the guid is not read. -/
def w3mReconcileCrowns (remoteCrowns : ℤ) (_remoteGuid : UInt64) (inv : Option ℤ) : Option ℤ :=
  reconcileOnAnyDiff remoteCrowns inv

end W3mpFinal

namespace W3mpRefactored

/-- `W3mReconcileCrowns(remoteCrowns, remoteGuid)` of `w3mp_refactored.ws`; the guid is not read. -/
def w3mReconcileCrowns (remoteCrowns : ℤ) (_remoteGuid : UInt64) (inv : Option ℤ) : Option ℤ :=
  reconcileOnAnyDiff remoteCrowns inv

end W3mpRefactored

namespace W3mp

/-- `W3mReconcileCrowns(totalCrowns, playerGuid)` of `w3mp.ws`: only a mismatch of more than
10 crowns (`AbsF(crownDiff) > 10`) is reconciled; the guid is not read. -/
def w3mReconcileCrowns (totalCrowns : ℤ) (_playerGuid : UInt64) (inv : Option ℤ) : Option ℤ :=
  inv.map fun currentCrowns =>
    let crownDiff := totalCrowns - currentCrowns
    if |crownDiff| > 10 then
      if crownDiff > 0 then addCrowns currentCrowns crownDiff
      else removeCrowns currentCrowns (-crownDiff)
    else currentCrowns

end W3mp

/-! ### What each version does -/

/-- The final and refactored versions set the crowns to the remote total, whatever the
difference. -/
theorem reconcileOnAnyDiff_eq (remoteCrowns localCrowns : ℤ) :
    reconcileOnAnyDiff remoteCrowns (some localCrowns) = some remoteCrowns := by
  simp only [reconcileOnAnyDiff, Option.map_some', addCrowns, removeCrowns, Option.some.injEq]
  split_ifs with h0 hpos
  · omega
  · rw [abs_of_nonpos (by omega)]; omega
  · omega

/-- The `w3mp.ws` version keeps the crowns within 10 of the remote total and sets them to it
otherwise. -/
theorem W3mp.w3mReconcileCrowns_eq (totalCrowns : ℤ) (playerGuid : UInt64) (currentCrowns : ℤ) :
    W3mp.w3mReconcileCrowns totalCrowns playerGuid (some currentCrowns) =
      some (if |totalCrowns - currentCrowns| ≤ 10 then currentCrowns else totalCrowns) := by
  simp only [W3mp.w3mReconcileCrowns, Option.map_some', addCrowns, removeCrowns,
    Option.some.injEq]
  split_ifs <;> omega

/-- The versions agree exactly when the difference is zero or more than 10 crowns. -/
theorem reconcileOnAnyDiff_eq_w3mp_iff (remoteCrowns localCrowns : ℤ) (guid : UInt64) :
    reconcileOnAnyDiff remoteCrowns (some localCrowns) =
        W3mp.w3mReconcileCrowns remoteCrowns guid (some localCrowns) ↔
      remoteCrowns = localCrowns ∨ 10 < |remoteCrowns - localCrowns| := by
  rw [reconcileOnAnyDiff_eq, W3mp.w3mReconcileCrowns_eq, Option.some.injEq]
  split_ifs with h
  · constructor
    · intro e; exact Or.inl e
    · rintro (e | e) <;> omega
  · simp only [true_iff]; omega

/-- With 100 crowns locally and a remote total of 95, a difference under the threshold, the final
and refactored scripts remove 5 crowns while `w3mp.ws` keeps 100. -/
theorem crowns_reconciled_below_threshold (guid : UInt64) :
    W3mpFinal.w3mReconcileCrowns 95 guid (some 100) = some 95 ∧
      W3mpRefactored.w3mReconcileCrowns 95 guid (some 100) = some 95 ∧
      W3mp.w3mReconcileCrowns 95 guid (some 100) = some 100 := by
  refine ⟨reconcileOnAnyDiff_eq 95 100, reconcileOnAnyDiff_eq 95 100, ?_⟩
  rw [W3mp.w3mReconcileCrowns_eq, if_pos (by decide)]

end WitcherSeamless
