import WitcherSeamless.Motion.DeadReckoning

/-!
# The basic interpolator and its extension

`interpolator.hpp` holds two versions of `player_interpolator`. The first, modelled here as
`BasicInterpolator`, has the ring buffer alone: the same `add_snapshot`, `reset` and
`get_most_recent_snapshot`, and a `get_interpolated_state` with the same bracket search and the
same blend, which returns nothing with fewer than two snapshots and the raw most recent snapshot
when the render time is not bracketed. The second, `PlayerInterpolator`, adds dead reckoning and
the recovery blend.

The second refines the first: its ring buffer, seen as a first one (`toBasic`), gives the first's
readings, dead-reckoned by the age of the latest snapshot, whenever no recovery is pending and two
snapshots are buffered (`getInterpolatedState_refines_basic`): a bracketed render time means the
latest snapshot is younger than 100 ms, so dead reckoning leaves the interpolated value alone, and
where the first falls back to the raw most recent snapshot the second moves it along its velocity.

## Main definitions

* `BasicInterpolator` and its operations.
* `PlayerInterpolator.toBasic`, `PlayerInterpolator.latestAgeMs`.

## Main results

* `getInterpolatedState_refines_basic`: the readings agree up to dead reckoning.

Source: `src/common/network/interpolator.hpp`, the first `player_interpolator` (`add_snapshot`,
`get_interpolated_state`, `reset`, `get_most_recent_snapshot`) against the second.
-/

namespace WitcherSeamless

/-- The fields of the first `player_interpolator`: the ring buffer. -/
structure BasicInterpolator where
  snapshots : Fin 3 → Snapshot
  writeIndex : Fin 3
  snapshotCount : Nat

namespace BasicInterpolator

open PlayerInterpolator (slotIndices latestStep bracketStep bracketFraction)

/-- A default-constructed interpolator. -/
def init : BasicInterpolator := ⟨fun _ => .empty, 0, 0⟩

/-- `add_snapshot(packet)`, arriving at `now`. -/
def addSnapshot (s : BasicInterpolator) (packet : PlayerStatePacket) (now : ℤ) :
    BasicInterpolator :=
  { snapshots := Function.update s.snapshots s.writeIndex ⟨packet, now, true⟩
    writeIndex := s.writeIndex + 1
    snapshotCount := if s.snapshotCount < snapshotBufferSize then s.snapshotCount + 1
      else s.snapshotCount }

/-- `reset()`. -/
def reset (s : BasicInterpolator) : BasicInterpolator :=
  ⟨fun i => { s.snapshots i with valid := false }, 0, 0⟩

/-- `get_most_recent_snapshot()`: the valid slot with the latest stamp, the first in array order
among equal stamps. -/
def getMostRecentSnapshot (s : BasicInterpolator) : Option PlayerStatePacket :=
  ((slotIndices.map s.snapshots).foldl latestStep none).map (·.state)

/-- The bracket search of `get_interpolated_state` over the first `snapshot_count_` slots. -/
def findBracket (s : BasicInterpolator) (renderTime : ℤ) : Option Snapshot × Option Snapshot :=
  ((slotIndices.filter (·.val < s.snapshotCount)).map s.snapshots).foldl (bracketStep renderTime)
    (none, none)

/-- `get_interpolated_state()` at `now`. -/
def getInterpolatedState (s : BasicInterpolator) (now : ℤ) : Option PlayerStatePacket :=
  if s.snapshotCount < 2 then none
  else
    let renderTime := now - interpolationDelayNs
    match s.findBracket renderTime with
    | (some older, some newer) =>
      if msCount (newer.timestamp - older.timestamp) = 0 then some older.state
      else some (blendPackets older.state newer.state
        (clamp01 (bracketFraction older newer renderTime)))
    | _ => s.getMostRecentSnapshot

end BasicInterpolator

namespace PlayerInterpolator

/-- The ring buffer of the second interpolator, as a first one. -/
def toBasic (s : PlayerInterpolator) : BasicInterpolator :=
  ⟨s.snapshots, s.writeIndex, s.snapshotCount⟩

/-- The age of the most recent snapshot at `now` in whole milliseconds, the `age_ms` of dead
reckoning; `0` without one. -/
def latestAgeMs (s : PlayerInterpolator) (now : ℤ) : ℤ :=
  (s.latestSnapshot.map fun l => msCount (now - l.timestamp)).getD 0

@[simp] theorem findBracket_toBasic (s : PlayerInterpolator) (r : ℤ) :
    s.toBasic.findBracket r = s.findBracket r := rfl

@[simp] theorem getMostRecentSnapshot_toBasic (s : PlayerInterpolator) :
    s.toBasic.getMostRecentSnapshot = s.getMostRecentSnapshot := rfl

/-- A snapshot after the render time makes the latest snapshot younger than 100 ms, so dead
reckoning leaves it alone. -/
theorem latestAgeMs_le_of_newer {s : PlayerInterpolator} {now : ℤ} {n : Snapshot}
    (h : (s.findBracket (now - interpolationDelayNs)).2 = some n) :
    s.latestAgeMs now ≤ extrapolationThresholdMs := by
  rw [findBracket, foldl_bracketStep] at h
  obtain ⟨h₁ | ⟨hmem, hk⟩, -, -⟩ := foldl_scanBest_spec (by simp)
    (fun x y z hxy hyz => by simp only [decide_eq_true_eq] at *; omega) _ _ h
  · cases h₁
  obtain ⟨i, -, rfl⟩ := List.mem_map.1 hmem
  simp only [Bool.and_eq_true, decide_eq_true_eq] at hk
  cases hl : s.latestSnapshot with
  | none =>
    have := (isNone_latestSnapshot_iff s).1 (by rw [hl]; rfl) i
    simp [this] at hk
  | some l =>
    have hli := (latestSnapshot_spec hl).2.2 i hk.1
    have hage := msCount_lt_of_lt (d := now - l.timestamp)
      (by unfold interpolationDelayNs at hk; omega)
    simp only [latestAgeMs, hl, Option.map_some', Option.getD_some, extrapolationThresholdMs]
    omega

/-- Without both brackets, the second version dead-reckons the raw most recent snapshot that the
first returns. -/
theorem getInterpolatedState_of_no_bracket_eq (s : PlayerInterpolator) (now : ℤ)
    (h : s.snapshotCount < 2 ∨ (s.findBracket (now - interpolationDelayNs)).1 = none ∨
      (s.findBracket (now - interpolationDelayNs)).2 = none) :
    (s.getInterpolatedState now).2 =
      s.getMostRecentSnapshot.map (deadReckon · (s.latestAgeMs now)) := by
  rw [getInterpolatedState_of_no_bracket s now h, getExtrapolatedPosition_eq, getMostRecentSnapshot]
  cases hl : s.latestSnapshot <;> simp [hl, latestAgeMs]

/-- The readings of the two versions, when no recovery is pending and two snapshots are buffered:
the second returns the first's reading dead-reckoned by the age of the latest snapshot. Where the
first interpolates, both return the same packet; where the first falls back to the raw most recent
snapshot, the second moves it along its velocity for the milliseconds past 100. -/
theorem getInterpolatedState_refines_basic (s : PlayerInterpolator) (now : ℤ)
    (hx : s.inExtrapolation = false) (hb : s.blendActive = false) (hc : 2 ≤ s.snapshotCount) :
    (s.getInterpolatedState now).2 =
      (s.toBasic.getInterpolatedState now).map (deadReckon · (s.latestAgeMs now)) := by
  have hc' : ¬ s.snapshotCount < 2 := by omega
  have hbasic : s.toBasic.getInterpolatedState now =
      match s.findBracket (now - interpolationDelayNs) with
      | (some o, some n) =>
        if msCount (n.timestamp - o.timestamp) = 0 then some o.state
        else some (blendPackets o.state n.state
          (clamp01 (bracketFraction o n (now - interpolationDelayNs))))
      | _ => s.getMostRecentSnapshot := by
    simp only [BasicInterpolator.getInterpolatedState, toBasic, if_neg hc']
    rfl
  rw [hbasic]
  rcases hbr : s.findBracket (now - interpolationDelayNs) with ⟨_ | o, _ | n⟩
  case some.some =>
    -- both brackets: the latest snapshot is fresh, so dead reckoning is the identity
    have hage := latestAgeMs_le_of_newer (by rw [hbr])
    dsimp only
    by_cases hd : msCount (n.timestamp - o.timestamp) = 0
    · rw [getInterpolatedState_of_bracket_tie hc' hbr hd, if_pos hd, Option.map_some',
        deadReckon_of_le _ hage]
    · rw [getInterpolatedState_of_bracket hc' hbr hd, applyBlendIfNeeded_of_idle hx hb,
        if_neg hd, Option.map_some', deadReckon_of_le _ hage]
  all_goals exact getInterpolatedState_of_no_bracket_eq s now (by simp [hbr])

/-- Two snapshots of `movingOnX`, added 50 ms apart. -/
def twoMovingSnapshots : PlayerInterpolator :=
  (PlayerInterpolator.init.addSnapshot movingOnX 0).addSnapshot movingOnX 50000000

/-- Read 120 ms after the first snapshot, both versions interpolate between the two. -/
theorem refines_basic_between_two_snapshots :
    twoMovingSnapshots.inExtrapolation = false ∧ twoMovingSnapshots.blendActive = false ∧
    2 ≤ twoMovingSnapshots.snapshotCount ∧
    (twoMovingSnapshots.getInterpolatedState 120000000).2 =
      (twoMovingSnapshots.toBasic.getInterpolatedState 120000000).map
        (deadReckon · (twoMovingSnapshots.latestAgeMs 120000000)) :=
  ⟨by decide, by decide, by decide,
    getInterpolatedState_refines_basic _ _ (by decide) (by decide) (by decide)⟩

end PlayerInterpolator

end WitcherSeamless
